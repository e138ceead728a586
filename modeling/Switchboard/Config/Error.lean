import Switchboard.Config.Format
import Switchboard.Tree.Decode

namespace Switchboard.Config

/-- Why a file could not be read. -/
inductive FileTrouble where
  | notFound
  | directory
  | notDirectory
  | notText
  | nulInName
deriving Repr, DecidableEq

/-- What a rule holds against the value of a property. -/
inductive Fault where
  | blank
  | notOneOf (value : String) (allowed : List String)
  | notWebUrl (value : String)
  | portZero
  | notVersion (value : String)
  | notUri (value service : String)
deriving Repr, DecidableEq

inductive Error where
  | keyNotFound (key : String)
  | unsupportedFile (path : String)
  | unreadableFile (path : String) (trouble : FileTrouble)
  | badGrammar (format : Format)
  | notObject
  | invalid (property : String) (fault : Fault)
  | keyNotText
  | mismatch (key : String) (cause : Tree.Mismatch)
deriving Repr

/-- What is said about a text that breaks the grammar of its format. -/
def Format.complaint : Format → String
  | .json => "JSON parse error"
  | .toml => "TOML parse error"
  | .env => ".env parse error"

def FileTrouble.message : FileTrouble → String
  | .notFound => "No such file or directory (os error 2)"
  | .directory => "Is a directory (os error 21)"
  | .notDirectory => "Not a directory (os error 20)"
  | .notText => "stream did not contain valid UTF-8"
  | .nulInName => "file name contained an unexpected NUL byte"

def Fault.message : Fault → String
  | .blank => "must not be empty"
  | .notOneOf value allowed => value ++ " is not one of " ++ Text.bracketed allowed
  | .notWebUrl value => "'" ++ value ++ "' is not an http(s) URL"
  | .portZero => "port must be between 1 and 65535"
  | .notVersion value => "'" ++ value ++ "' is not a version"
  | .notUri value service =>
    "'" ++ value ++ "' is not a valid URI for service '" ++ service ++ "'"

def Error.message : Error → String
  | .keyNotFound key => "Configuration key not found: " ++ key
  | .unsupportedFile path =>
    "Failed to load configuration: Unsupported configuration file: " ++ path
  | .unreadableFile path trouble =>
    "Failed to load configuration: Failed to read " ++ path ++ ": " ++ trouble.message
  | .badGrammar format => "Failed to parse configuration: " ++ format.complaint
  | .notObject => "Failed to parse configuration: JSON configuration must be an object"
  | .invalid property fault =>
    "Invalid configuration: " ++ property ++ ": " ++ fault.message
  | .keyNotText => "Serialization error: key must be a string"
  | .mismatch key cause => "Deserialization error for '" ++ key ++ "': " ++ cause.message

end Switchboard.Config
