import Balance.Address
import Balance.Call.SystemError
import Balance.Config.Reading
import Balance.Config.Validation
import Balance.Toml.Reader

/-!
From a file to a configuration that is accepted. The file must be readable and
a text, the text must be a document of the right shape, and the configuration
must be free of problems; the first of these steps that fails is answered.
-/

namespace Balance

inductive FileError
  | system (code : Nat)
  | notText
deriving Repr, DecidableEq

namespace FileError

def notTextMessage : String := "stream did not contain valid UTF-8"

def message : FileError → String
  | system code => SystemError.describe code
  | notText => notTextMessage

def kindName (code : Nat) : String :=
  match code with
  | 1 | 13 => "PermissionDenied"
  | 2 => "NotFound"
  | 4 => "Interrupted"
  | 7 => "ArgumentListTooLong"
  | 11 => "WouldBlock"
  | 12 => "OutOfMemory"
  | 16 => "ResourceBusy"
  | 17 => "AlreadyExists"
  | 18 => "CrossesDevices"
  | 20 => "NotADirectory"
  | 21 => "IsADirectory"
  | 22 => "InvalidInput"
  | 26 => "ExecutableFileBusy"
  | 27 => "FileTooLarge"
  | 28 => "StorageFull"
  | 29 => "NotSeekable"
  | 30 => "ReadOnlyFilesystem"
  | 31 => "TooManyLinks"
  | 32 => "BrokenPipe"
  | 35 => "Deadlock"
  | 36 => "InvalidFilename"
  | 38 | 95 => "Unsupported"
  | 39 => "DirectoryNotEmpty"
  | 40 => "FilesystemLoop"
  | 98 => "AddrInUse"
  | 99 => "AddrNotAvailable"
  | 100 => "NetworkDown"
  | 101 => "NetworkUnreachable"
  | 103 => "ConnectionAborted"
  | 104 => "ConnectionReset"
  | 107 => "NotConnected"
  | 110 => "TimedOut"
  | 111 => "ConnectionRefused"
  | 113 => "HostUnreachable"
  | 115 => "InProgress"
  | 116 => "StaleNetworkFileHandle"
  | 122 => "QuotaExceeded"
  | _ => "Uncategorized"

def shown : FileError → String
  | system code =>
    ConfigProblem.shownRecord "Os"
      [("code", toString code), ("kind", kindName code),
        ("message", Text.quoted (SystemError.reason code))]
  | notText =>
    ConfigProblem.shownRecord "Error"
      [("kind", "InvalidData"), ("message", Text.quoted notTextMessage)]

end FileError

inductive ConfigError
  | io (error : FileError)
  | parse
  | validation (problems : List ConfigProblem)
deriving Repr, DecidableEq

namespace ConfigError

def name : ConfigError → String
  | io _ => "Io"
  | parse => "Parse"
  | validation _ => "Validation"

def message : ConfigError → String
  | io error => "IO error: " ++ error.message
  | parse => "Parse error"
  | validation problems =>
    "Validation failed: " ++ ", ".intercalate (problems.map ConfigProblem.message)

def shown (error : ConfigError) : String :=
  match error with
  | io cause => error.name ++ "(" ++ cause.shown ++ ")"
  | parse => error.name
  | validation problems =>
    error.name ++ "([" ++ ", ".intercalate (problems.map ConfigProblem.shown) ++ "])"

end ConfigError

namespace Config

def accept (fault : String → Option String) (config : Config) : Except ConfigError Config :=
  match Validation.problems fault config with
  | [] => .ok config
  | problems => .error (.validation problems)

def ofToml? (text : String) : Option Config := (Toml.parse? text).bind (Config.ofData? .toml)

def parse (text : String) : Except ConfigError Config :=
  match ofToml? text with
  | none => .error .parse
  | some config => config.accept Address.fault?

def load (content : Except FileError ByteArray) : Except ConfigError Config :=
  match content with
  | .error error => .error (.io error)
  | .ok bytes =>
    match String.fromUTF8? bytes with
    | none => .error (.io .notText)
    | some text => parse text

theorem accept_eq_ok_iff (fault : String → Option String) (config accepted : Config) :
    config.accept fault = .ok accepted ↔
      Validation.problems fault config = [] ∧ accepted = config := by
  unfold accept
  cases Validation.problems fault config with
  | nil => simp [eq_comm]
  | cons problem problems => simp

theorem accept_eq_error_iff (fault : String → Option String) (config : Config)
    (error : ConfigError) :
    config.accept fault = .error error ↔
      Validation.problems fault config ≠ [] ∧
        error = .validation (Validation.problems fault config) := by
  unfold accept
  cases Validation.problems fault config with
  | nil => simp
  | cons problem problems => simp [eq_comm]

end Config

end Balance
