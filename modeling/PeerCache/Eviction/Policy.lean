import PeerCache.Text.Utf8

/-! # Eviction policies

The three ways of choosing the next entry to leave a full storage, and how a policy is named: freely
in upper or lower case where a user types it, in exact lower case where a document configures it.
-/

namespace PeerCache.Eviction

/-- How the next victim is chosen. -/
inductive Policy where
  /-- The entry that was touched longest ago. -/
  | lru
  /-- The entry that was inserted longest ago. -/
  | fifo
  /-- The entry that was touched least often. -/
  | lfu
deriving DecidableEq, Repr

namespace Policy

/-- The policy of a storage for which none was chosen. -/
def standard : Policy := .lru

/-- The lower-case name of a policy. -/
def name : Policy → String
  | .lru => "lru"
  | .fifo => "fifo"
  | .lfu => "lfu"

/-- The diagnostic text of a policy. -/
def describe : Policy → String
  | .lru => "Lru"
  | .fifo => "Fifo"
  | .lfu => "Lfu"

/-- The policy of a name in exact lower case. -/
def ofName? : String → Option Policy
  | "lru" => some .lru
  | "fifo" => some .fifo
  | "lfu" => some .lfu
  | _ => none

/-- A name that no policy has, as it was typed. -/
structure UnknownName where
  text : String
deriving DecidableEq, Repr

/-- What is reported about an unknown name. -/
def UnknownName.message (unknown : UnknownName) : String :=
  "unknown eviction algorithm: " ++ unknown.text

/-- Read a typed name. The case of ASCII letters does not matter. -/
def parse (text : String) : Except UnknownName Policy :=
  match ofName? text.toLower with
  | some policy => .ok policy
  | none => .error ⟨text⟩

/-! ## Policies in documents -/

/-- The value found in a document where a policy is expected. -/
inductive Setting where
  /-- A plain text. -/
  | text (name : String)
  /-- A table with one entry, and whether that entry is empty. -/
  | entry (name : String) (isEmpty : Bool)
  /-- Any other value. -/
  | other
deriving DecidableEq, Repr

/-- Why a value in a document is no policy. -/
inductive SettingError where
  /-- A text that names no policy. -/
  | unknownVariant (name : String)
  /-- A value of the wrong shape. -/
  | unexpected
deriving DecidableEq, Repr

/-- What is reported about a value, where the report is fixed. -/
def SettingError.message? : SettingError → Option String
  | .unknownVariant name =>
    some ("unknown variant \x60" ++ name
      ++ "\x60, expected one of \x60lru\x60, \x60fifo\x60, \x60lfu\x60")
  | .unexpected => none

/-- Read a policy from a document: an exact name, or a table whose only key is one and whose entry
is empty. -/
def ofSetting : Setting → Except SettingError Policy
  | .text name =>
    match ofName? name with
    | some policy => .ok policy
    | none => .error (.unknownVariant name)
  | .entry name isEmpty =>
    match ofName? name with
    | some policy => if isEmpty then .ok policy else .error .unexpected
    | none => .error .unexpected
  | .other => .error .unexpected

end Policy

end PeerCache.Eviction
