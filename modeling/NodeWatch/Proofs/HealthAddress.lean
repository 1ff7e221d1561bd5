import NodeWatch.Net.Url
import NodeWatch.Proofs.SocketAddress
import NodeWatch.Proofs.Validation
import NodeWatch.Registry.Service

/-!
# The address of the health endpoint

The address is written as the one to listen on, a colon and the port. For version 4 this is the
address of the socket. For version 6 it is the address of no socket, and what the registry is told
to ask is no address of the web, since nothing tells the colons of the address from the one before
the port.
-/

namespace NodeWatch

namespace Url

/-- What stands in an address of plain web traffic between the two slashes and the next one. -/
def authorityText? (url : String) : Option String :=
  if "http://".toList.isPrefixOf url.toList then
    some (String.ofList ((url.toList.drop "http://".toList.length).takeWhile (· != '/')))
  else none

/-- A character is plain if it is visible and separates no more than a host from a port. -/
def isPlain (c : Char) : Bool :=
  decide (' ' < c) && !(['/', '\\', '?', '#', '@', '[', ']'].contains c)

/-- A plain character ends no authority. -/
theorem ends_of_isPlain {c : Char} (h : isPlain c = true) :
    isSlash true c = false ∧ (isSlash true c || (c == '?' || c == '#')) = false := by
  simp only [isPlain, Bool.and_eq_true, Bool.not_eq_true', List.contains_eq_mem, List.mem_cons,
    decide_eq_false_iff_not, not_or] at h
  obtain ⟨-, hslash, hbackslash, hquery, hhash, -⟩ := h
  simp [isSlash, hslash, hbackslash, hquery, hhash]

/-- Nothing is stripped from a text of visible characters. -/
theorem strip_eq_self {cs : List Char} (h : ∀ c ∈ cs, ' ' < c) : strip cs = cs := by
  have hkept {cs : List Char} (h : ∀ c ∈ cs, ' ' < c) : cs.dropWhile (· ≤ ' ') = cs := by
    cases cs with
    | nil => rfl
    | cons c cs =>
      rw [List.dropWhile_cons_of_neg]
      rw [decide_eq_true_eq]
      exact Char.not_le.mpr (h c List.mem_cons_self)
  unfold strip
  dsimp only
  rw [hkept h, hkept fun c hc => h c (List.mem_reverse.mp hc), List.reverse_reverse,
    List.filter_eq_self]
  intro c hc
  have hvisible := h c hc
  have hne : c ≠ '\t' ∧ c ≠ '\n' ∧ c ≠ '\r' := by
    refine ⟨?_, ?_, ?_⟩ <;> rintro rfl <;> revert hvisible <;> decide
  simp [hne]

/-- A text without separators is one piece. -/
theorem pieces_of_forall {isSeparator : Char → Bool} {cs : List Char}
    (h : ∀ c ∈ cs, isSeparator c = false) : Host.pieces isSeparator cs = [cs] := by
  induction cs with
  | nil => rfl
  | cons c cs ih =>
    have hrest := ih fun d hd => h d (List.mem_cons_of_mem _ hd)
    simp only [Host.pieces, h c List.mem_cons_self, hrest, Bool.false_eq_true, if_false]

/-- What holds no at-sign names no user. -/
theorem splitUserinfo_of_notMem {cs : List Char} (h : '@' ∉ cs) :
    splitUserinfo cs = (none, cs) := by
  have hpieces : Host.pieces (· == '@') cs = [cs] :=
    pieces_of_forall fun c hc => beq_false_of_ne fun heq => h (heq ▸ hc)
  rw [splitUserinfo, hpieces]
  rfl

/-- Outside brackets the first colon is that before the port. -/
theorem splitPort_append {host : List Char} (hcolon : ':' ∉ host) (hopen : '[' ∉ host)
    (port : List Char) : splitPort false (host ++ ':' :: port) = (host, some port) := by
  induction host with
  | nil => rfl
  | cons c host ih =>
    rw [List.mem_cons, not_or] at hcolon hopen
    rw [List.cons_append, splitPort, if_neg fun h => hcolon.1 h.1.symm, if_neg (Ne.symm hopen.1),
      ite_self, ih hcolon.2 hopen.2]

/-- A port has no colon. -/
theorem readPort_eq_none {cs : List Char} (h : ':' ∈ cs) (usual : Option Nat) :
    readPort usual cs = none := by
  have hne : cs ≠ [] := List.ne_nil_of_mem h
  have hdigits : ¬cs.all Char.isDigit = true := fun hall =>
    absurd (List.all_eq_true.mp hall ':' h) (by decide)
  rw [readPort, if_neg hne, if_neg fun h => hdigits h.1]

/-- An authority of plain characters is none if there is a colon in what should be the port. -/
theorem readAuthority_eq_none (u : Url) {host port : List Char}
    (hplain : ∀ c ∈ host ++ ':' :: port, isPlain c = true) (hcolon : ':' ∉ host)
    (hport : ':' ∈ port) : readAuthority u true (host ++ ':' :: port) = none := by
  have hat : '@' ∉ host ++ ':' :: port := fun hmem => absurd (hplain _ hmem) (by decide)
  have hopen : '[' ∉ host := fun hmem =>
    absurd (hplain _ (List.mem_append_left _ hmem)) (by decide)
  unfold readAuthority
  rw [splitUserinfo_of_notMem hat]
  dsimp only
  rw [splitPort_append hcolon hopen]
  dsimp only
  split
  · rfl
  · simp [readPort_eq_none hport]

/-- A text that begins like an address of the web is none if what stands before the path is no
authority. -/
theorem parse?_eq_none {authority path : List Char} (hne : authority ≠ [])
    (hplain : ∀ c ∈ authority, isPlain c = true) (hpath : ∀ c ∈ path, ' ' < c)
    (h : ∀ u, readAuthority u true authority = none) :
    parse? (String.ofList ("http://".toList ++ authority ++ '/' :: path)) = none := by
  have hvisible : ∀ c ∈ "http://".toList ++ authority ++ '/' :: path, ' ' < c := by
    have hstart : ("http://".toList.all fun c => decide (' ' < c)) = true := by decide
    intro c hc
    simp only [List.mem_append, List.mem_cons] at hc
    rcases hc with (hc | hc) | rfl | hc
    · exact of_decide_eq_true (List.all_eq_true.mp hstart c hc)
    · exact of_decide_eq_true (Bool.and_eq_true_iff.mp (hplain c hc)).1
    · decide
    · exact hpath c hc
  have hscheme : readScheme ("http://".toList ++ authority ++ '/' :: path) =
      some ("http".toList, "//".toList ++ authority ++ '/' :: path) := by
    rfl
  unfold parse?
  rw [String.toList_ofList, strip_eq_self hvisible, hscheme, Option.bind_some]
  have hspecial : isSpecial "http".toList = true := by decide
  have hfile : (String.ofList "http".toList == "file") = false := by decide
  have hslashes : ("//".toList ++ authority ++ '/' :: path).dropWhile (isSlash true) =
      authority ++ '/' :: path := by
    cases authority with
    | nil => exact absurd rfl hne
    | cons c authority =>
      have hc := (ends_of_isPlain (hplain c List.mem_cons_self)).1
      change (c :: (authority ++ '/' :: path)).dropWhile (isSlash true) = _
      rw [List.dropWhile_cons_of_neg (by rw [hc]; exact Bool.false_ne_true)]
      rfl
  have hcut : cut (fun c => isSlash true c || (c == '?' || c == '#')) (authority ++ '/' :: path) =
      (authority, '/' :: path) := by
    have hinside : ∀ c ∈ authority, (!(isSlash true c || (c == '?' || c == '#'))) = true :=
      fun c hc => by rw [(ends_of_isPlain (hplain c hc)).2, Bool.not_false]
    rw [cut, List.takeWhile_append_of_pos hinside, List.dropWhile_append_of_pos hinside]
    exact Prod.ext (List.append_nil authority) rfl
  unfold readAfterScheme
  simp only [hspecial, hfile, Bool.false_eq_true, if_false, if_true, hslashes, hcut, h]
  rfl

end Url

namespace Ip

/-- What the text of an address is made of is plain. -/
theorem isPlain_of_isPart {c : Char} (h : isPart c = true) : Url.isPlain c = true := by
  have hbehind {d : Char} (hd : ' ' < d) (hle : d ≤ c) : ' ' < c :=
    Nat.lt_of_lt_of_le (UInt32.lt_iff_toNat_lt.mp hd) (UInt32.le_iff_toNat_le.mp hle)
  have hvisible : ' ' < c := by
    rw [isPart, Bool.or_eq_true, Bool.or_eq_true, beq_iff_eq, beq_iff_eq] at h
    rcases h with (hdigit | rfl) | rfl
    · unfold Digit.isDigit Digit.value? at hdigit
      split at hdigit
      · rename_i hbetween
        exact hbehind (by decide) hbetween.1
      split at hdigit
      · rename_i hbetween
        exact hbehind (by decide) hbetween.1
      split at hdigit
      · rename_i hbetween
        exact hbehind (by decide) hbetween.1
      · cases hdigit
    · decide
    · decide
  have hseparators : ['/', '\\', '?', '#', '@', '[', ']'].all (!isPart ·) = true := by decide
  have hother : ['/', '\\', '?', '#', '@', '[', ']'].contains c = false := by
    rw [List.contains_eq_mem, decide_eq_false_iff_not]
    intro hmem
    have hpart := List.all_eq_true.mp hseparators c hmem
    rw [h] at hpart
    cases hpart
  rw [Url.isPlain, decide_eq_true hvisible, hother]
  rfl

end Ip

namespace Config

theorem toList_healthAddr (c : Config) :
    c.healthAddr.toList = c.bindAddr.toList ++ ':' :: Nat.toDigits 10 c.bindPort.toNat :=
  SocketAddress.toList_colon c.bindAddr c.bindPort

theorem toList_healthCheckUrl (c : Config) :
    c.healthCheckUrl.toList =
      "http://".toList ++ c.healthAddr.toList ++ '/' :: "synced".toList := by
  rw [healthCheckUrl, String.toList_append, String.toList_append]
  rfl

variable {c : Config} {ip : Ip}

/-- Nothing that is advertised of an address separates anything but the address and the port. -/
theorem isPlain_of_mem_healthAddr (h : Ip.parse? c.bindAddr = some ip) :
    ∀ ch ∈ c.healthAddr.toList, Url.isPlain ch = true := by
  intro ch hch
  refine Ip.isPlain_of_isPart ?_
  rw [toList_healthAddr, List.mem_append, List.mem_cons] at hch
  rcases hch with hch | rfl | hch
  · exact Ip.isPart_of_mem h hch
  · decide
  · rw [Ip.isPart, Digit.isDigit_of_between (Json.between_of_mem_toDigits hch) (by decide)]
    rfl

/-- The authority that the registry is told to ask is the advertised address. -/
theorem authorityText?_healthCheckUrl (h : Ip.parse? c.bindAddr = some ip) :
    Url.authorityText? c.healthCheckUrl = some c.healthAddr := by
  have hinside : ∀ ch ∈ c.healthAddr.toList, (ch != '/') = true := fun ch hch => by
    rw [bne_iff_ne]
    rintro rfl
    exact absurd (isPlain_of_mem_healthAddr h _ hch) (by decide)
  have hpath : ('/' :: "synced".toList).takeWhile (· != '/') = [] := rfl
  rw [Url.authorityText?, toList_healthCheckUrl, List.append_assoc,
    if_pos (List.isPrefixOf_iff_prefix.mpr (List.prefix_append _ _)), List.drop_left,
    List.takeWhile_append_of_pos hinside, hpath, List.append_nil, String.ofList_toList]

/-- An address of version 6 is advertised at no address of the web. -/
theorem parse?_healthCheckUrl (h : Ip.parse? c.bindAddr = some ip) (hv6 : ip.isV4 = false) :
    Url.parse? c.healthCheckUrl = none := by
  have hplain := isPlain_of_mem_healthAddr h
  -- the first colon is one of the address, so the one before the port comes after it
  have hsplit : ∃ host port,
      c.healthAddr.toList = host ++ ':' :: port ∧ ':' ∉ host ∧ ':' ∈ port := by
    obtain ⟨host, rest, haddr, hhost⟩ := List.eq_append_cons_of_mem (Ip.colon_mem h hv6)
    refine ⟨host, rest ++ ':' :: Nat.toDigits 10 c.bindPort.toNat, ?_, hhost, ?_⟩
    · rw [toList_healthAddr, haddr, List.append_assoc, List.cons_append]
    · exact List.mem_append_right _ List.mem_cons_self
  obtain ⟨host, port, haddr, hhost, hport⟩ := hsplit
  have hurl : c.healthCheckUrl =
      String.ofList ("http://".toList ++ (host ++ ':' :: port) ++ '/' :: "synced".toList) := by
    rw [← haddr, ← toList_healthCheckUrl, String.ofList_toList]
  have hpath : ("synced".toList.all fun ch => decide (' ' < ch)) = true := by decide
  rw [haddr] at hplain
  rw [hurl]
  refine Url.parse?_eq_none (by simp) hplain (fun ch hch => ?_) fun u => ?_
  · exact of_decide_eq_true (List.all_eq_true.mp hpath ch hch)
  · exact Url.readAuthority_eq_none u hplain hhost hport

/-- For every configuration that is accepted there is an address to listen on. If that is one of
version 4, what is advertised is the address of the socket with it and the port that is configured.
If it is one of version 6, what is advertised is the address of no socket, although it would be one
in brackets, and what the registry is told to ask is no address of the web. -/
theorem healthAddr_of_validate (h : c.validate = .ok ()) :
    ∃ ip, Ip.parse? c.bindAddr = some ip ∧
      SocketAddress.parse? c.healthAddr = (if ip.isV4 then some ⟨ip, c.bindPort⟩ else none) ∧
      (ip.isV4 = false →
        SocketAddress.parse? s!"[{c.bindAddr}]:{c.bindPort}" = some ⟨ip, c.bindPort⟩) ∧
      ∀ consul, let url := (Registry.Service.ofConfig c consul).check.http
        Url.authorityText? url = some c.healthAddr ∧ (ip.isV4 = false → Url.parse? url = none) := by
  obtain ⟨-, -, -, haddr, -⟩ := validate_eq_ok_iff.mp h
  rw [Option.isNone_iff_eq_none] at haddr
  obtain ⟨ip, hip⟩ := Option.ne_none_iff_exists'.mp haddr
  refine ⟨ip, hip, SocketAddress.parse?_colon hip c.bindPort, fun hv6 => ?_, fun consul => ⟨?_, ?_⟩⟩
  · exact SocketAddress.parse?_brackets hip hv6 c.bindPort
  · exact authorityText?_healthCheckUrl hip
  · exact parse?_healthCheckUrl hip

/-- The address that is listened on by default is advertised with its port. -/
theorem healthAddr_of_default :
    let c : Config := { nodeName := "parity", endpoint := "localhost" }
    SocketAddress.parse? c.healthAddr = some ⟨.v4 127 0 0 1, 4647⟩ := by
  intro c
  obtain ⟨ip, hip, hsocket, -⟩ :=
    healthAddr_of_validate (c := c) (validate_eq_ok_iff.mpr (by decide))
  have hread : Ip.parse? c.bindAddr = some (.v4 127 0 0 1) := by decide
  obtain rfl : ip = .v4 127 0 0 1 := Option.some.inj (hip.symm.trans hread)
  exact hsocket

/-- The loopback address of version 6 is accepted, and neither what is advertised for it nor what
the registry is told to ask can be read. -/
theorem unreadable_healthAddr_accepted :
    let c : Config := { nodeName := "parity", endpoint := "localhost", bindAddr := "::1" }
    c.validate = .ok () ∧ SocketAddress.parse? c.healthAddr = none ∧
      Url.parse? c.healthCheckUrl = none := by
  intro c
  exact ⟨validate_eq_ok_iff.mpr (by decide), by decide, by decide⟩

end Config

end NodeWatch
