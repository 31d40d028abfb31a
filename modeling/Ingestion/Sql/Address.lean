import Ingestion.Error
import Ingestion.Http.Form
import Ingestion.Url.Basic

/-!
# Addresses of databases

The address of a database is a URL of any scheme. Its user, its password, its path and the pairs
of its query tell how to connect. Before anything is sent, it is checked that they make sense:
the encoded parts stand for texts, numbers are in their range, and the mode of encryption is a
known one. Pairs with other keys do not matter.
-/

namespace Ingestion.Sql

/-- Why no connection to a database is made. -/
inductive ConnectError where
  /-- The address is no address of a database. -/
  | configuration
  /-- Nothing can be reached at the address. -/
  | unreachable
  /-- The server refuses the connection. -/
  | refused (source : DatabaseError)
deriving DecidableEq, Repr, Inhabited

/-- The modes of encryption. -/
def encryptionModes : List String :=
  ["disable", "allow", "prefer", "require", "verify-ca", "verify-full"]

/-- The keys of the query whose values are checked. -/
inductive AddressKey where
  | encryption
  /-- The number after the host. -/
  | hostNumber
  | hostAddress
  | cacheCapacity
deriving DecidableEq, Repr, Inhabited

namespace AddressKey

/-- The key of a text. -/
def ofKey? (key : String) : Option AddressKey :=
  if key == "sslmode" || key == "ssl-mode" then some encryption
  else if key.toList == ['p', 'o', 'r', 't'] then some hostNumber
  else if key == "hostaddr" then some hostAddress
  else if key == "statement-cache-capacity" then some cacheCapacity
  else none

/-- Whether a value makes sense for a key. -/
def accepts (value : List Char) : AddressKey → Bool
  | encryption => encryptionModes.contains (String.ofList (Text.lower value))
  | hostNumber => (Text.bounded? (UInt16.size - 1) value).isSome
  | hostAddress => Url.isAddress value
  | cacheCapacity => (Text.bounded? (UInt64.size - 1) value).isSome

end AddressKey

/-- Whether the value of a pair makes sense for its key. -/
def isSound (pair : String × String) : Bool :=
  (AddressKey.ofKey? pair.1).all fun key => key.accepts pair.2.toList

/-- Whether an encoded text stands for a text. -/
def isEncodedText (cs : List Char) : Bool :=
  (Utf8.decode? (Http.Percent.decode cs)).isSome

/-- Whether a host makes sense. One that starts with an encoded slash is the path of a socket and
has to be a text. -/
def isSoundHost (cs : List Char) : Bool :=
  (Http.Percent.decode cs).head? != some '/'.toNat || isEncodedText cs

/-- Whether a text is the address of a database. -/
def isAddress (url : String) : Bool :=
  match Url.ofText? url with
  | none => false
  | some u =>
    isSoundHost u.host && isEncodedText u.username && isEncodedText u.password
      && u.path.all isEncodedText && (Http.formPairs u.query).all isSound

/-- Why no connection is made to an address at which there is nothing. -/
def connectFault (url : String) : ConnectError :=
  if isAddress url then .unreachable else .configuration

end Ingestion.Sql
