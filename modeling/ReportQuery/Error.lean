/-
# Errors

Errors of the database side (`DatabaseError`) and errors of this library
(`Error`).  Each is a cause, and its wording is in one function.

A failed query carries the text of its statement and the database error behind
it, so that the message names the statement and the cause says what happened.
-/

import ReportQuery.Calendar.Pattern
import ReportQuery.Decimal.Whole
import ReportQuery.Json.Fault
import ReportQuery.Scalar.Cell
import ReportQuery.Text.Utf8

namespace ReportQuery

/-- Why a stored value cannot be read as a value of some type. -/
inductive DecodeFault where
  /-- The class of the value is none that the type accepts; the flag says
  whether a missing value would have been accepted. -/
  | mismatch (wanted : ScalarType) (optional : Bool) (found : StorageClass)
  | tooLarge
  | tooSmall
  | notADate (fault : Calendar.Fault)
  | notADateTime (text : String)
  | notUtf8 (fault : Text.Utf8Fault)
deriving DecidableEq

/-- The wording of a fault in decoding. -/
def DecodeFault.message : DecodeFault → String
  | .mismatch wanted optional found =>
    let typeName := if optional then "core::option::Option<" ++ wanted.name ++ ">" else wanted.name
    "mismatched types; Rust type `" ++ typeName ++ "` (as SQL type `" ++ wanted.declared ++
      "`) is not compatible with SQL type `" ++ found.name ++ "`"
  | .tooLarge => "number too large to fit in target type"
  | .tooSmall => "number too small to fit in target type"
  | .notADate fault => fault.message
  | .notADateTime text => "invalid datetime: " ++ text
  | .notUtf8 fault => fault.message

/-- What can be wrong with the settings in a database URL. -/
inductive SettingsFault where
  | emptyHost
  | forbiddenCharacter
  | invalidAddress
  | invalidPort
  | notUtf8 (fault : Text.Utf8Fault)
  | notANumber (fault : Decimal.WholeFault)
  | invalidNumericAddress
  | unknownValue (parameter value : String)
  | unknownSslMode (value : String)
  | unknownParameter (name : String)
  | unsupportedCharset (name : String)
  | unsupportedCollation (name : String)
deriving DecidableEq

namespace SettingsFault

/-- What a message about the settings begins with. -/
def heading : String := "error with configuration: "

/-- The message about a parameter that has none of its values. -/
def unknownValueMessage (parameter value : String) : String :=
  "unknown value " ++ Text.quoted value ++ " for `" ++ parameter ++ "`"

/-- The fault behind a fault in the settings, if it has one. -/
def innerMessage? : SettingsFault → Option String
  | .unknownSslMode value => some (unknownValueMessage "ssl_mode" value)
  | _ => none

/-- The wording of a fault in the settings. -/
def message : SettingsFault → String
  | .emptyHost => "empty host"
  | .forbiddenCharacter => "invalid domain character"
  | .invalidAddress => "invalid IPv6 address"
  | .invalidPort => "invalid port number"
  | .notUtf8 fault => fault.message
  | .notANumber fault => fault.message
  | .invalidNumericAddress => "invalid IP address syntax"
  | .unknownValue parameter value => unknownValueMessage parameter value
  | .unknownSslMode value => heading ++ unknownValueMessage "ssl_mode" value
  | .unknownParameter name =>
    "unknown query parameter `" ++ name ++ "` while parsing connection URL"
  | .unsupportedCharset name => "unsupported MySQL charset: " ++ name
  | .unsupportedCollation name => "unsupported MySQL collation: " ++ name

end SettingsFault

/-- An error of the database side. -/
inductive DatabaseError where
  | rowNotFound
  | poolClosed
  | poolTimedOut
  | workerCrashed
  | badProtocol (detail : String)
  | columnNotFound (name : String)
  | columnOutOfBounds (index count : Nat)
  | decoding (column : Nat) (fault : DecodeFault)
  /-- The argument of this number, counted from 1, is a day that cannot be sent. -/
  | unsendableDate (argument : Nat) (date : Calendar.Date)
  | settings (fault : SettingsFault)
  | communication (detail : String)
  | reported (code : Nat) (detail : String)
deriving DecidableEq

namespace DatabaseError

/-- What a database reports, behind its code. -/
def report (code : Nat) (detail : String) : String :=
  "(code: " ++ toString code ++ ") " ++ detail

/-- The message about an argument that cannot be sent. -/
def encodingMessage (argument : Nat) (date : Calendar.Date) : String :=
  "Encoding argument $" ++ toString argument ++
    " failed: NaiveDateTime out of range for Mysql: " ++ date.text

/-- The messages of a database error's causes, from the nearest one on. -/
def causes : DatabaseError → List String
  | .decoding _ fault => [fault.message]
  | .reported code detail => [report code detail]
  | .settings fault => fault.message :: fault.innerMessage?.toList
  | .communication detail => [detail]
  | .unsendableDate argument date => [encodingMessage argument date]
  | _ => []

/-- The wording of a database error. -/
def message : DatabaseError → String
  | .rowNotFound => "no rows returned by a query that expected to return at least one row"
  | .poolClosed => "attempted to acquire a connection on a closed pool"
  | .poolTimedOut => "pool timed out while waiting for an open connection"
  | .workerCrashed => "attempted to communicate with a crashed background worker"
  | .badProtocol detail => "encountered unexpected or invalid data: " ++ detail
  | .columnNotFound name => "no column found for name: " ++ name
  | .columnOutOfBounds index count =>
    "column index out of bounds: the len is " ++ toString count ++ ", but the index is " ++
      toString index
  | .decoding column fault =>
    "error occurred while decoding column " ++ toString column ++ ": " ++ fault.message
  | .unsendableDate argument date =>
    "error occurred while encoding a value: " ++ encodingMessage argument date
  | .settings fault => SettingsFault.heading ++ fault.message
  | .communication detail => "error communicating with database: " ++ detail
  | .reported code detail => "error returned from database: " ++ report code detail

end DatabaseError

/-- An error of this library. -/
inductive Error where
  | unsupportedDatabase (url : String)
  | database (cause : DatabaseError)
  | noPool
  | invalidArgument (detail : String)
  /-- A statement failed; `sql` is its text as the database got it. -/
  | query (sql : String) (cause : DatabaseError)
  | handler (detail : String)
  | invalidFilter (text : String) (fault : Json.Fault)
deriving DecidableEq

namespace Error

/-- The wording of an error. -/
def message : Error → String
  | .unsupportedDatabase url => "Unsupported database URL: " ++ url
  | .database cause => "Database error: " ++ cause.message
  | .noPool => "No connection pool available for driver"
  | .invalidArgument detail => "Invalid argument: " ++ detail
  | .query sql _ => "Exception thrown while processing SQL: '" ++ sql ++ "'"
  | .handler detail => "Result handler failed: " ++ detail
  | .invalidFilter text fault => "Invalid filter: " ++ fault.message text

/-- The messages of an error's causes, from the nearest one on. -/
def causes : Error → List String
  | .database cause | .query _ cause => cause.message :: cause.causes
  | .invalidFilter text fault => [fault.message text]
  | _ => []

end Error

end ReportQuery
