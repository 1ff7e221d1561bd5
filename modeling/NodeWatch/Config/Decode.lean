import NodeWatch.Config.Basic
import NodeWatch.Document.View

/-!
# Reading a configuration from a document

A configuration is a table, or an array of the fields in their order. Fields are read in the order
of their names, unknown ones are passed over, and the first fault counts; what is missing gets its
default, and that the endpoint is missing is noticed last.
-/

namespace NodeWatch

open Document

/-- The fields of a registry section, in their order. -/
def ConsulConfig.fieldNames : List String :=
  ["address", "service_name", "tags", "service_port", "check_interval", "check_timeout",
    "max_attempts", "retry_backoff_seconds"]

/-- The fields of a configuration, in their order. -/
def Config.fieldNames : List String :=
  ["node_name", "endpoint", "poll_interval_seconds", "rpc_timeout_seconds", "sync_threshold",
    "bind_addr", "bind_port", "metrics_namespace", "consul"]

variable {α : Type} [Document α]

namespace ConsulConfig

/-- Reads one field. -/
def readField (name : String) (value : α) (c : ConsulConfig) : Except Fault ConsulConfig :=
  match name with
  | "address" => do return { c with address := ← text value }
  | "service_name" => do return { c with serviceName := ← text value }
  | "tags" => do return { c with tags := ← texts value }
  | "service_port" => do return { c with servicePort := ← word16 value }
  | "check_interval" => do return { c with checkInterval := ← text value }
  | "check_timeout" => do return { c with checkTimeout := ← text value }
  | "max_attempts" => do return { c with maxAttempts := ← word32 value }
  | "retry_backoff_seconds" => do return { c with retryBackoff := ← word64 value }
  | _ => do ignore value; return c

/-- Reads a registry section. -/
def decode (a : α) : Except Fault ConsulConfig :=
  match view a with
  | .table entries => readFields readField {} entries
  | .list items refusesSurplus => do
    let c ← readFields readField {} (fieldNames.zip items)
    if refusesSurplus ∧ fieldNames.length < items.length then .error (surplus items.length)
    else return c
  | v => .error (v.mismatch "struct ConsulConfig")

end ConsulConfig

namespace Config

/-- A configuration whose endpoint is not known yet. -/
structure Draft where
  endpoint : Option String := none
  config : Config

/-- The draft before anything was read. -/
def Draft.initial (hostname : Option String) : Draft where
  config := { nodeName := defaultNodeName hostname, endpoint := "" }

/-- Reads a registry section, which may be null. -/
def decodeConsul (a : α) : Except Fault (Option ConsulConfig) :=
  match view a with
  | .null => .ok none
  | _ => (ConsulConfig.decode a).map some

/-- Reads one field. -/
def readField (name : String) (value : α) (d : Draft) : Except Fault Draft :=
  let c := d.config
  match name with
  | "node_name" => do return { d with config := { c with nodeName := ← text value } }
  | "endpoint" => do return { d with endpoint := some (← text value) }
  | "poll_interval_seconds" => do
    return { d with config := { c with pollInterval := ← word64 value } }
  | "rpc_timeout_seconds" => do
    return { d with config := { c with rpcTimeout := ← word64 value } }
  | "sync_threshold" => do return { d with config := { c with syncThreshold := ← word64 value } }
  | "bind_addr" => do return { d with config := { c with bindAddr := ← text value } }
  | "bind_port" => do return { d with config := { c with bindPort := ← word16 value } }
  | "metrics_namespace" => do
    return { d with config := { c with metricsNamespace := ← text value } }
  | "consul" => do return { d with config := { c with consul := ← decodeConsul value } }
  | _ => do ignore value; return d

/-- The configuration of a draft to which nothing will be added. -/
def Draft.finish (d : Draft) : Except Fault Config :=
  match d.endpoint with
  | some endpoint => .ok { d.config with endpoint }
  | none => .error (.missingField "endpoint")

/-- The complaint about an array that ends before the field of that index. -/
def endsBefore (index : Nat) : Fault := .invalidLength index "struct Config with 9 elements"

/-- Whether an array of fields has a length that will do: the endpoint and the last field, the
registry section, must be there. -/
def checkLength (length : Nat) (refusesSurplus : Bool) : Except Fault Unit :=
  if length ≤ 1 then .error (endsBefore 1)
  else if length ≤ 8 then .error (endsBefore 8)
  else if refusesSurplus ∧ 9 < length then .error (surplus length)
  else .ok ()

/-- Reads a configuration; the host's name is what a node without a name is called. -/
def decode (hostname : Option String) (a : α) : Except Fault Config :=
  match view a with
  | .table entries => do (← readFields readField (.initial hostname) entries).finish
  | .list items refusesSurplus => do
    let d ← readFields readField (.initial hostname) (fieldNames.zip items)
    checkLength items.length refusesSurplus
    d.finish
  | v => .error (v.mismatch "struct Config")

end Config

end NodeWatch
