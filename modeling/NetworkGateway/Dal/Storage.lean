import NetworkGateway.Library.Table
import NetworkGateway.Dal.Secrets

/-! `app/dal/db/storage.py`: the tables of the gateway database.

Columns under a CHECK constraint have the type of the values it admits. -/

namespace NetworkGateway

inductive AuthenticationType where
  | password
  | sshKey
  deriving DecidableEq, Repr

def AuthenticationType.text : AuthenticationType → String
  | .password => "password"
  | .sshKey => "ssh_key"

inductive ProxyType where
  | sshTunnel
  | sshShell
  | socks5
  | httpConnect
  deriving DecidableEq, Repr

def ProxyType.text : ProxyType → String
  | .sshTunnel => "ssh_tunnel"
  | .sshShell => "ssh_shell"
  | .socks5 => "socks5"
  | .httpConnect => "http_connect"

def ProxyType.ofText (text : String) : Option ProxyType :=
  [sshTunnel, sshShell, socks5, httpConnect].find? (fun kind => kind.text == text)

inductive Protocol where
  | ssh
  | netconf
  | telnet
  deriving DecidableEq, Repr

def Protocol.text : Protocol → String
  | .ssh => "ssh"
  | .netconf => "netconf"
  | .telnet => "telnet"

def Protocol.ofText (text : String) : Option Protocol :=
  [ssh, netconf, telnet].find? (fun protocol => protocol.text == text)

inductive Interface where
  | eth0
  | eth1
  | lo
  deriving DecidableEq, Repr

def Interface.text : Interface → String
  | .eth0 => "eth0"
  | .eth1 => "eth1"
  | .lo => "lo"

def Interface.ofText (text : String) : Option Interface :=
  [eth0, eth1, lo].find? (fun interface => interface.text == text)

inductive JobStatus where
  | queued
  | running
  | completed
  | failed
  deriving DecidableEq, Repr

def JobStatus.text : JobStatus → String
  | .queued => "queued"
  | .running => "running"
  | .completed => "completed"
  | .failed => "failed"

def JobStatus.ofText (text : String) : Option JobStatus :=
  [queued, running, completed, failed].find? (fun status => status.text == text)

/-- `status in {"queued", "running"}`. -/
def JobStatus.active : JobStatus → Bool
  | .queued | .running => true
  | .completed | .failed => false

inductive AuthMode where
  | entra
  | demo
  deriving DecidableEq, Repr

def AuthMode.text : AuthMode → String
  | .entra => "entra"
  | .demo => "demo"

inductive Outcome where
  | succeeded
  | failed
  deriving DecidableEq, Repr

def Outcome.text : Outcome → String
  | .succeeded => "succeeded"
  | .failed => "failed"

abbrev Port := {n : Int // 1 ≤ n ∧ n ≤ 65535}
abbrev Timeout := {seconds : Rat // 1 ≤ seconds ∧ seconds ≤ 30}
abbrev Metric := {n : Int // 0 ≤ n ∧ n ≤ 65535}

structure RoleAccountRow (Token : Type) where
  id : String
  name : String
  username : String
  authenticationType : AuthenticationType
  secrets : Token

structure ProxyRow (Token : Type) where
  id : String
  name : String
  type : ProxyType
  host : String
  port : Port
  roleAccountId : Option String
  configuration : Dict
  secrets : Token

structure ConnectionRow (Token : Type) where
  id : String
  name : String
  protocol : Protocol
  host : String
  port : Port
  timeoutSeconds : Timeout
  roleAccountId : Option String
  proxyId : Option String
  configuration : Dict
  secrets : Token

structure StaticRouteRow where
  id : String
  connectionId : String
  destination : String
  nextHop : String
  interface : Option Interface
  metric : Metric
  description : String
  enabled : Bool
  deriving DecidableEq

/-- One element of a job's `results` column. -/
structure JobResult where
  connectionId : String
  name : String
  protocol : Value
  host : String
  port : Value
  connectorType : Value
  success : Bool
  simulated : Bool
  stage : String
  detail : String
  durationMs : Value
  deriving DecidableEq

structure JobRow (Token : Type) where
  id : String
  status : JobStatus
  total : Nat
  completed : Nat
  snapshot : Token
  results : List JobResult
  error : Option String
  activeSlot : Option Nat

structure TransactionRow where
  id : String
  timestampUtc : String
  correlationId : String
  actorSubject : String
  actorTenantId : Option String
  actorName : String
  actorEmail : Option String
  actorRoles : List String
  authMode : AuthMode
  action : String
  resourceType : String
  resourceId : Option String
  connectionId : Option String
  outcome : Outcome
  beforeState : Value
  afterState : Value
  detail : Value
  requestMethod : Option String
  requestPath : Option String
  deriving DecidableEq

structure Db (Token : Type) where
  configurations : List (String × Value)
  roleAccounts : List (RoleAccountRow Token)
  proxies : List (ProxyRow Token)
  connections : List (ConnectionRow Token)
  staticRouteInitializations : List String
  staticRoutes : List StaticRouteRow
  jobs : List (JobRow Token)
  transactions : List TransactionRow

/-- The database `create_all` leaves. -/
def Db.empty {Token : Type} : Db Token := ⟨[], [], [], [], [], [], [], []⟩

namespace ProxyType

@[simp] theorem ofText_text (kind : ProxyType) : ofText kind.text = some kind := by
  cases kind <;> rfl

theorem text_ne_direct (kind : ProxyType) : kind.text ≠ "direct" := by
  cases kind <;> decide

end ProxyType

section Columns

variable {Token : Type}

/-- The columns of a row besides `secrets` and `configuration`, as `dict(row)` has them. -/
def RoleAccountRow.columns (row : RoleAccountRow Token) : Dict :=
  [("id", .str row.id), ("name", .str row.name), ("username", .str row.username),
   ("authentication_type", .str row.authenticationType.text)]

def ProxyRow.columns (row : ProxyRow Token) : Dict :=
  [("id", .str row.id), ("name", .str row.name), ("type", .str row.type.text),
   ("host", .str row.host), ("port", .int row.port.1),
   ("role_account_id", Value.ofOption row.roleAccountId)]

def ConnectionRow.columns (row : ConnectionRow Token) : Dict :=
  [("id", .str row.id), ("name", .str row.name), ("protocol", .str row.protocol.text),
   ("host", .str row.host), ("port", .int row.port.1),
   ("timeout_seconds", .float (.finite row.timeoutSeconds.1)),
   ("role_account_id", Value.ofOption row.roleAccountId),
   ("proxy_id", Value.ofOption row.proxyId)]

def StaticRouteRow.columns (row : StaticRouteRow) : Dict :=
  [("id", .str row.id), ("connection_id", .str row.connectionId),
   ("destination", .str row.destination), ("next_hop", .str row.nextHop),
   ("interface", Value.ofOption (row.interface.map Interface.text)),
   ("metric", .int row.metric.1), ("description", .str row.description),
   ("enabled", .bool row.enabled)]

end Columns

end NetworkGateway
