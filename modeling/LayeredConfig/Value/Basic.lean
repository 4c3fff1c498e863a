import LayeredConfig.Number.Binary64

/-!
# Configuration values

A value is a scalar, a sequence, a mapping in document order, or a value under
a tag. Mappings may use any value as a key; two keys are the same when they
have the same content, whatever the order of a mapping's entries.
-/

namespace LayeredConfig

/-- A number keeps whether it was written as an integer or as a floating point number. -/
inductive Number where
  /-- An integer. -/
  | integer (value : Int)
  /-- A floating point number. -/
  | float (value : Binary64)
  deriving DecidableEq, Repr, Inhabited

/-- Numbers as keys: an integer never equals a floating point number. -/
def Number.sameKey : Number → Number → Bool
  | .integer m, .integer n => m == n
  | .float x, .float y => x.sameKey y
  | _, _ => false

/-- A configuration value. -/
inductive Value where
  /-- Nothing. -/
  | null
  /-- A truth value. -/
  | bool (value : Bool)
  /-- A number. -/
  | number (value : Number)
  /-- A text. -/
  | string (text : String)
  /-- Values in order. -/
  | sequence (items : List Value)
  /-- Keys with their values, in document order. -/
  | mapping (entries : List (Value × Value))
  /-- A value under a tag. The tag is kept without its leading exclamation mark. -/
  | tagged (tag : String) (value : Value)
  deriving Inhabited, Repr

namespace Value

/-- A tag as it is stored: without the exclamation mark in front, unless that is all there is. -/
def tagName (written : String) : String :=
  match written.toList with
  | '!' :: c :: rest => String.ofList (c :: rest)
  | _ => written

/-- A stored tag as it is shown. -/
def tagText (tag : String) : String := "!" ++ tag

mutual

/-- Two values are the same key of a mapping. -/
def sameKey : Value → Value → Bool
  | .null, .null => true
  | .bool a, .bool b => a == b
  | .number a, .number b => a.sameKey b
  | .string a, .string b => a == b
  | .sequence a, .sequence b => sameItems a b
  | .mapping a, .mapping b => a.length == b.length && allIn a b
  | .tagged s a, .tagged t b => s == t && sameKey a b
  | _, _ => false

/-- The values agree place by place. -/
def sameItems : List Value → List Value → Bool
  | [], [] => true
  | a :: as, b :: bs => sameKey a b && sameItems as bs
  | _, _ => false

/-- Every entry occurs among the others, at any place. -/
def allIn : List (Value × Value) → List (Value × Value) → Bool
  | [], _ => true
  | (k, v) :: rest, others =>
    others.any (fun other => sameKey k other.1 && sameKey v other.2) && allIn rest others

end

/-- Bind a key of a mapping: an earlier entry keeps its place and its key, and
takes the new value. -/
def bind (key value : Value) : List (Value × Value) → List (Value × Value)
  | [] => [(key, value)]
  | (k, old) :: rest =>
    if sameKey k key then (k, value) :: rest else (k, old) :: bind key value rest

/-- The mapping that results from binding the pairs one after the other. -/
def mappingOf (pairs : List (Value × Value)) : Value :=
  .mapping (pairs.foldl (fun entries pair => bind pair.1 pair.2 entries) [])

/-- A key is bound by one of the entries. -/
def bindsKey (entries : List (Value × Value)) (key : Value) : Bool :=
  entries.any fun entry => sameKey entry.1 key

/-- Strip the tags around a value. -/
def untagged : Value → Value
  | .tagged _ value => untagged value
  | value => value

end Value

end LayeredConfig
