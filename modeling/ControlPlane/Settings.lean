/-
Settings.

The settings are one JSON file with a section for each part of the program.
Every section and every field may be left out; what is not given has a default.
Some combinations cannot work and are refused when the file is loaded. The token
of the operator may also come from the environment, which wins over the file.
-/
import ControlPlane.Fault

set_option autoImplicit false

namespace ControlPlane

namespace Settings

/-- A token that acts for one user. -/
structure UserToken where
  /-- The token. -/
  token : String
  /-- The user. -/
  userId : Int
deriving DecidableEq, Repr

/-- Where the gateway listens, and whom it lets in. -/
structure Gateway where
  /-- The address to listen on. -/
  host : String
  /-- The port to listen on. -/
  port : Nat
  /-- The operator's token. -/
  apiToken : Option String
  /-- The web sites that may use the gateway; none means all. -/
  allowedOrigins : List String
  /-- The tokens of users. -/
  userTokens : List UserToken
deriving DecidableEq, Repr

/-- The times and sizes of a connection. -/
structure Connection where
  /-- How long a write may take, in seconds. -/
  writeWait : Nat
  /-- How long the client may be silent, in seconds. -/
  pongWait : Nat
  /-- The time between two pings, in seconds. -/
  pingPeriod : Nat
  /-- The size of the largest message in bytes. -/
  maxMessageSize : Nat
  /-- How many messages may wait to be written. -/
  sendBuffer : Nat
deriving DecidableEq, Repr

/-- How decisions are made. -/
structure Decision where
  /-- The address of the model's service. -/
  apiBase : String
  /-- The key for the service. -/
  apiKey : String
  /-- The name of the model. -/
  model : String
  /-- How long an answer may be. -/
  maxTokens : Nat
  /-- How freely the model chooses; `none` is more than any number says. -/
  temperature : Option Single
  /-- How long an exchange may take, in seconds. -/
  timeout : Nat
  /-- How often a failed call is repeated. -/
  maxRetries : Nat
  /-- How long to wait before the first repetition, in milliseconds. -/
  retryDelay : Nat
  /-- How many failed rounds in a row stop a conversation. -/
  maxConsecutiveFailures : Nat
deriving DecidableEq, Repr

/-- When abandoned work is ended. -/
structure Sweeper where
  /-- Whether it is ended at all. -/
  enabled : Bool
  /-- When to look for it. -/
  schedule : String
  /-- How long an action may take, in seconds. -/
  actionMaxDuration : Nat
  /-- How long a message may take, in seconds. -/
  messageMaxDuration : Nat
deriving DecidableEq, Repr

/-- Where the store is. -/
structure Storage where
  /-- The file of the store. -/
  dbPath : Option String
deriving DecidableEq, Repr

/-! ## Defaults -/

/-- The gateway's default settings. -/
def Gateway.standard : Gateway := ⟨"0.0.0.0", 18790, none, [], []⟩

/-- The default settings of connections. -/
def Connection.standard : Connection := ⟨10, 60, 54, 65536, 256⟩

/-- A fifth, in single precision. -/
def fifth : Option Single := Binary.ofRatio .single false 1 5

/-- The default settings of decisions. -/
def Decision.standard : Decision :=
  ⟨"https://open.bigmodel.cn/api/paas/v4", "", "glm-4-flash", 1024, fifth, 60, 2, 2000, 3⟩

/-- The default settings of sweeps. -/
def Sweeper.standard : Sweeper := ⟨true, "0 0 * * * *", 600, 3600⟩

/-- The default settings of the store. -/
def Storage.standard : Storage := ⟨none⟩

end Settings

/-- All settings. -/
structure Settings where
  /-- Where the gateway listens, and whom it lets in. -/
  gateway : Settings.Gateway
  /-- The times and sizes of a connection. -/
  connection : Settings.Connection
  /-- How decisions are made. -/
  decision : Settings.Decision
  /-- When abandoned work is ended. -/
  sweeper : Settings.Sweeper
  /-- Where the store is. -/
  storage : Settings.Storage
deriving DecidableEq, Repr

namespace Settings

/-- The default settings. -/
def standard : Settings := ⟨.standard, .standard, .standard, .standard, .standard⟩

/-! ## Reading -/

/-- An unsigned 64-bit number. -/
def word64 (wanted : String) : Decoder Nat := Decoder.natural .unsigned64 wanted

/-- A user's token from a value. -/
def UserToken.decoder : Decoder UserToken :=
  (RecordReader.start UserToken.mk)
    |>.required "token" Decoder.text
    |>.required "userId" Decoder.signed64
    |>.decoder "struct UserToken"

/-- The gateway's section. -/
def Gateway.decoder : Decoder Gateway :=
  (RecordReader.start Gateway.mk)
    |>.defaulted "host" Decoder.text Gateway.standard.host
    |>.defaulted "port" (Decoder.natural .unsigned16 "u16") Gateway.standard.port
    |>.optional "apiToken" Decoder.text
    |>.defaulted "allowedOrigins" (Decoder.list Decoder.text) []
    |>.defaulted "userTokens" (Decoder.list UserToken.decoder) []
    |>.decoder "struct GatewayConfig"

/-- The section of connections. -/
def Connection.decoder : Decoder Connection :=
  (RecordReader.start Connection.mk)
    |>.defaulted "writeWaitSecs" (word64 "u64") Connection.standard.writeWait
    |>.defaulted "pongWaitSecs" (word64 "u64") Connection.standard.pongWait
    |>.defaulted "pingPeriodSecs" (word64 "u64") Connection.standard.pingPeriod
    |>.defaulted "maxMessageSize" (word64 "usize") Connection.standard.maxMessageSize
    |>.defaulted "sendBuffer" (word64 "usize") Connection.standard.sendBuffer
    |>.decoder "struct ConnectionConfig"

/-- The section of decisions. -/
def Decision.decoder : Decoder Decision :=
  (RecordReader.start Decision.mk)
    |>.defaulted "apiBase" Decoder.text Decision.standard.apiBase
    |>.defaulted "apiKey" Decoder.text Decision.standard.apiKey
    |>.defaulted "model" Decoder.text Decision.standard.model
    |>.defaulted "maxTokens" (Decoder.natural .unsigned32 "u32") Decision.standard.maxTokens
    |>.defaulted "temperature" Decoder.single Decision.standard.temperature
    |>.defaulted "timeoutSecs" (word64 "u64") Decision.standard.timeout
    |>.defaulted "maxRetries" (Decoder.natural .unsigned32 "u32") Decision.standard.maxRetries
    |>.defaulted "retryDelayMs" (word64 "u64") Decision.standard.retryDelay
    |>.defaulted "maxConsecutiveFailures" (Decoder.natural .unsigned32 "u32")
      Decision.standard.maxConsecutiveFailures
    |>.decoder "struct DecisionConfig"

/-- The section of sweeps. -/
def Sweeper.decoder : Decoder Sweeper :=
  (RecordReader.start Sweeper.mk)
    |>.defaulted "enabled" Decoder.bool Sweeper.standard.enabled
    |>.defaulted "schedule" Decoder.text Sweeper.standard.schedule
    |>.defaulted "actionMaxDurationSecs" (word64 "u64") Sweeper.standard.actionMaxDuration
    |>.defaulted "messageMaxDurationSecs" (word64 "u64") Sweeper.standard.messageMaxDuration
    |>.decoder "struct SweeperConfig"

/-- The section of the store. -/
def Storage.decoder : Decoder Storage :=
  (RecordReader.start Storage.mk)
    |>.optional "dbPath" Decoder.text
    |>.decoder "struct StorageConfig"

/-- All settings from a value. -/
def decoder : Decoder Settings :=
  (RecordReader.start Settings.mk)
    |>.defaulted "gateway" Gateway.decoder .standard
    |>.defaulted "connection" Connection.decoder .standard
    |>.defaulted "decision" Decision.decoder .standard
    |>.defaulted "sweeper" Sweeper.decoder .standard
    |>.defaulted "storage" Storage.decoder .standard
    |>.decoder "struct Config"

/-! ## Writing -/

/-- A number that is not negative as a value. -/
def count (n : Nat) : Json := Json.int n

/-- A user's token as a value. -/
def UserToken.toJson (t : UserToken) : Json :=
  .object [("token", .string t.token), ("userId", Json.int t.userId)]

/-- The gateway's section as a value. -/
def Gateway.toJson (g : Gateway) : Json :=
  .object
    [("host", .string g.host), ("port", count g.port),
      ("apiToken", Json.orNull .string g.apiToken),
      ("allowedOrigins", .array (g.allowedOrigins.map .string)),
      ("userTokens", .array (g.userTokens.map UserToken.toJson))]

/-- The section of connections as a value. -/
def Connection.toJson (c : Connection) : Json :=
  .object
    [("writeWaitSecs", count c.writeWait), ("pongWaitSecs", count c.pongWait),
      ("pingPeriodSecs", count c.pingPeriod), ("maxMessageSize", count c.maxMessageSize),
      ("sendBuffer", count c.sendBuffer)]

/-- A temperature as a value. -/
def temperatureJson (t : Option Single) : Json :=
  Json.orNull (fun x => .number (.single x)) t

/-- The section of decisions as a value. -/
def Decision.toJson (d : Decision) : Json :=
  .object
    [("apiBase", .string d.apiBase), ("apiKey", .string d.apiKey), ("model", .string d.model),
      ("maxTokens", count d.maxTokens), ("temperature", temperatureJson d.temperature),
      ("timeoutSecs", count d.timeout), ("maxRetries", count d.maxRetries),
      ("retryDelayMs", count d.retryDelay),
      ("maxConsecutiveFailures", count d.maxConsecutiveFailures)]

/-- The section of sweeps as a value. -/
def Sweeper.toJson (s : Sweeper) : Json :=
  .object
    [("enabled", .bool s.enabled), ("schedule", .string s.schedule),
      ("actionMaxDurationSecs", count s.actionMaxDuration),
      ("messageMaxDurationSecs", count s.messageMaxDuration)]

/-- The section of the store as a value. -/
def Storage.toJson (s : Storage) : Json :=
  .object [("dbPath", Json.orNull .string s.dbPath)]

/-- All settings as a value. -/
def toJson (s : Settings) : Json :=
  .object
    [("gateway", s.gateway.toJson), ("connection", s.connection.toJson),
      ("decision", s.decision.toJson), ("sweeper", s.sweeper.toJson),
      ("storage", s.storage.toJson)]

/-- The text that is saved. -/
def savedText (s : Settings) : String := s.toJson.prettyText

/-! ## Use -/

/-- The operator's token, if the check is switched on. -/
def operatorToken? (s : Settings) : Option String :=
  s.gateway.apiToken.bind Text.nonBlank?

/-- Checks the tokens of users. -/
def checkTokens (operator : Option String) : List UserToken → Except Fault Unit
  | [] => .ok ()
  | t :: rest =>
    if Text.isBlankText t.token then .error (.blankUserToken t.userId)
    else if operator = some (Text.trim t.token) then .error (.sharedUserToken t.userId)
    else checkTokens operator rest

/-- Checks that the settings can work. -/
def check (s : Settings) : Except Fault Unit :=
  if s.connection.pingPeriod = 0 ∨ s.connection.pongWait ≤ s.connection.pingPeriod then
    .error (.pingPeriod s.connection.pingPeriod s.connection.pongWait)
  else if s.connection.sendBuffer = 0 then .error .noSendBuffer
  else if s.decision.maxConsecutiveFailures = 0 then .error .noFailureBudget
  else checkTokens s.operatorToken? s.gateway.userTokens

/-- Reads the text of a settings file without checking it. -/
def read (text : String) : Except Fault Settings :=
  match decoder.ofText text with
  | .ok s => .ok s
  | .error e => .error (.badJson e)

/-- Reads and checks the text of a settings file. -/
def load (text : String) : Except Fault Settings :=
  match read text with
  | .error e => .error e
  | .ok s =>
    match s.check with
    | .error e => .error e
    | .ok () => .ok s

/-- The settings file as it is found. -/
inductive File where
  /-- There is none. -/
  | absent
  /-- It has this text. -/
  | text (s : String)
  /-- It is a directory. -/
  | directory
deriving DecidableEq, Repr

/-- The settings with the token that the environment gives. -/
def withEnvironment (s : Settings) (token : Option String) : Settings :=
  match token with
  | some t =>
    if Text.isBlankText t then s
    else { s with gateway := { s.gateway with apiToken := some t } }
  | none => s

/-- The settings that are in force: those of the file or the default ones, and
the token of the environment. -/
def inForce (file : File) (token : Option String) : Except Fault Settings :=
  match file with
  | .absent => .ok (standard.withEnvironment token)
  | .directory => .error .isDirectory
  | .text s => (load s).map (·.withEnvironment token)

/-- The settings file in the program's directory. -/
def filePath (base : String) : String := base ++ "/config.json"

/-- The directory of the program's data. -/
def dataDirectory (base : String) : String := base ++ "/data"

/-- The store's file, where the settings do not name one. -/
def standardStorePath (base : String) : String := dataDirectory base ++ "/pilot.db"

/-- The file of the store. -/
def storePath (s : Settings) (base : String) : String :=
  match s.storage.dbPath with
  | some p => if Text.isBlankText p then standardStorePath base else p
  | none => standardStorePath base

end Settings

end ControlPlane
