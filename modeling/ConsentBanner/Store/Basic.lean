import ConsentBanner.Json.Reader
import ConsentBanner.Json.Writer
import ConsentBanner.Store.Disk

/-!
# Stores

A store keeps values under keys: in memory, or as one file for each key in a folder.  What is kept in
files may have been changed by somebody else, so that it may not be readable.
-/

set_option autoImplicit false

namespace ConsentBanner

open Json (DecodeError ReadError)

/-- Why a store, or what is kept in it, cannot be used. -/
inductive StoreError where
  /-- A file cannot be written or removed. -/
  | changing (cause : FileError)
  | reading (path : String) (cause : FileError)
  | parsing (path : String) (cause : ReadError)
  | readingRules (path : String) (cause : FileError)
  | decodingConfig (cause : DecodeError)
  | decodingRules (cause : DecodeError)

def StoreError.message : StoreError → String
  | .changing cause => cause.message
  | .reading path cause => "reading " ++ path ++ ": " ++ cause.message
  | .parsing path cause => "parsing " ++ path ++ ": " ++ cause.message
  | .readingRules path cause => "reading rules from " ++ path ++ ": " ++ cause.message
  | .decodingConfig cause => "decoding stored config: " ++ cause.message
  | .decodingRules cause => "decoding stored rules: " ++ cause.message

/-- A folder on a disk, with the name by which errors call it. -/
structure Folder where
  disk : Disk
  place : Place
  name : String

namespace Folder

def fileName (key : String) : String := key ++ ".json"

def pathOf (folder : Folder) (key : String) : String :=
  if key.toList.head? = some '/' then fileName key else folder.name ++ "/" ++ fileName key

/-- The value of the file for a key, if there is one. -/
def get? (folder : Folder) (key : String) : Except StoreError (Option Json) :=
  match folder.disk.read folder.place (fileName key) with
  | .error .notFound => .ok none
  | .error cause => .error (.reading (folder.pathOf key) cause)
  | .ok text =>
    match Json.read text with
    | .ok value => .ok (some value)
    | .error cause => .error (.parsing (folder.pathOf key) cause)

def put (folder : Folder) (key : String) (value : Json) : Except StoreError Folder :=
  match folder.disk.write folder.place (fileName key) value.pretty with
  | .ok disk => .ok { folder with disk := disk }
  | .error cause => .error (.changing cause)

def erase (folder : Folder) (key : String) : Except StoreError Folder :=
  match folder.disk.remove folder.place (fileName key) with
  | .ok disk => .ok { folder with disk := disk }
  | .error .notFound => .ok folder
  | .error cause => .error (.changing cause)

end Folder

/-- Values under keys. -/
inductive Store where
  | files (folder : Folder)
  | memory (values : Keyed String Json)

namespace Store

/-- The value under a key, if there is one. -/
def get? : Store → String → Except StoreError (Option Json)
  | .files folder, key => folder.get? key
  | .memory values, key => .ok (values.get? key)

def put : Store → String → Json → Except StoreError Store
  | .files folder, key, value => (folder.put key value).map .files
  | .memory values, key, value => .ok (.memory (values.put key value))

def erase : Store → String → Except StoreError Store
  | .files folder, key => (folder.erase key).map .files
  | .memory values, key => .ok (.memory (values.erase key))

end Store

end ConsentBanner
