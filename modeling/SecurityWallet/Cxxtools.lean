import SecurityWallet.Foundation.Json
import SecurityWallet.Foundation.StdMap

/-!
# Serialization trees

The part of cxxtools the wallet calls. A `SerializationInfo` is a tree of named members; a node to
which nothing was written is void. How a tree becomes text, how a text becomes a tree and how a leaf
is converted are the library's, so they are parameters: `Cxxtools` gives them and `LawfulCxxtools`
says what the wallet relies on.
-/

open Foundation

/-- A node of a serialization tree; the void node is `Json.null`. -/
abbrev SerializationInfo := Json

namespace SerializationInfo

/-- The members of a node, in order. The elements of an array are members without a name. -/
def members : SerializationInfo → List (String × SerializationInfo)
  | .obj members => members
  | .arr elements => elements.map fun element => ("", element)
  | _ => []

def children (si : SerializationInfo) : List SerializationInfo := (members si).map Prod.snd

def findMember (si : SerializationInfo) (name : String) : Option SerializationInfo :=
  ((members si).find? fun member => member.1 = name).map Prod.snd

def addMember (si : SerializationInfo) (name : String) (value : SerializationInfo) :
    SerializationInfo :=
  .obj (members si ++ [(name, value)])

@[simp]
theorem children_arr (elements : List SerializationInfo) :
    children (.arr elements) = elements := by
  simp [children, members]

@[simp]
theorem members_obj (ms : List (String × SerializationInfo)) : members (.obj ms) = ms := rfl

@[simp]
theorem members_null : members .null = [] := rfl

@[simp]
theorem findMember_null (name : String) : findMember .null name = none := rfl

theorem findMember_addMember (si : SerializationInfo) (name other : String)
    (value : SerializationInfo) :
    findMember (addMember si name value) other =
      (findMember si other).or (if name = other then some value else none) := by
  unfold findMember addMember
  rw [members_obj, List.find?_append]
  cases hfind : (members si).find? fun member => member.1 = other with
  | some member => simp
  | none => by_cases hname : name = other <;> simp [hname]

/-! ### Values written to a node -/

def ofUInt8 (n : UInt8) : SerializationInfo := .int n.toNat

/-- A vector is written as an array. -/
def ofList {α : Type} (write : α → SerializationInfo) (values : List α) : SerializationInfo :=
  .arr (values.map write)

/-- A set of strings is written as the array of its elements in order. -/
def ofSet (strings : StdSet String) : SerializationInfo := ofList .str strings.toList

end SerializationInfo

/-- What the program calls of cxxtools; an exception is given by its text. -/
class Cxxtools where
  serialize : (beautify : Bool) → SerializationInfo → String
  deserialize : List UInt8 → Except String SerializationInfo
  getString : SerializationInfo → Except String String
  getUInt8 : SerializationInfo → Except String UInt8
  memberNotFound : String → String

/-- The bytes of a string. -/
def strToBytes (str : String) : List UInt8 := str.toUTF8.data.toList

/-- Texts read back as the tree they were written from, and leaves as the value written. -/
class LawfulCxxtools [Cxxtools] : Prop where
  deserialize_serialize (beautify : Bool) (si : SerializationInfo) :
    Cxxtools.deserialize (strToBytes (Cxxtools.serialize beautify si)) = .ok si
  getString_str (s : String) : Cxxtools.getString (.str s) = .ok s
  getUInt8_ofUInt8 (n : UInt8) : Cxxtools.getUInt8 (SerializationInfo.ofUInt8 n) = .ok n

attribute [simp] LawfulCxxtools.deserialize_serialize LawfulCxxtools.getString_str
  LawfulCxxtools.getUInt8_ofUInt8

/-- A JSON text is neither empty nor the word that marks an error. -/
class CxxtoolsTexts [Cxxtools] : Prop where
  serialize_ne_empty (beautify : Bool) (si : SerializationInfo) :
    Cxxtools.serialize beautify si ≠ ""
  serialize_ne_error (beautify : Bool) (si : SerializationInfo) :
    Cxxtools.serialize beautify si ≠ "ERROR"

/-- An empty text is not that of a tree. -/
class CxxtoolsEmptyText [Cxxtools] : Prop where
  deserialize_nil : ∃ what, Cxxtools.deserialize [] = .error what

/-- The conversions of leaves that only the clients call. -/
class CxxtoolsClient where
  getBool : SerializationInfo → Except String Bool
  getUInt32 : SerializationInfo → Except String UInt32

class LawfulCxxtoolsClient [CxxtoolsClient] : Prop where
  getBool_bool (b : Bool) : CxxtoolsClient.getBool (.bool b) = .ok b
  getUInt32_ofUInt32 (n : UInt32) : CxxtoolsClient.getUInt32 (.int n.toNat) = .ok n

namespace SerializationInfo

variable [Cxxtools]

/-- Reading a member that must be there. -/
def getMember (si : SerializationInfo) (name : String) : Except String SerializationInfo :=
  match findMember si name with
  | some member => .ok member
  | none => .error (Cxxtools.memberNotFound name)

def getStringMember (si : SerializationInfo) (name : String) : Except String String := do
  Cxxtools.getString (← getMember si name)

def getUInt8Member (si : SerializationInfo) (name : String) : Except String UInt8 := do
  Cxxtools.getUInt8 (← getMember si name)

section Found

variable {si : SerializationInfo} {name : String}

theorem getMember_of_findMember {member : SerializationInfo}
    (hfind : findMember si name = some member) : getMember si name = .ok member := by
  rw [getMember, hfind]

variable [LawfulCxxtools]

theorem getStringMember_of_findMember {value : String}
    (hfind : findMember si name = some (.str value)) : getStringMember si name = .ok value := by
  rw [getStringMember, getMember_of_findMember hfind]
  exact LawfulCxxtools.getString_str value

theorem getUInt8Member_of_findMember {value : UInt8}
    (hfind : findMember si name = some (ofUInt8 value)) : getUInt8Member si name = .ok value := by
  rw [getUInt8Member, getMember_of_findMember hfind]
  exact LawfulCxxtools.getUInt8_ofUInt8 value

end Found

/-- Reading into a vector replaces its elements. -/
def getList {α : Type} (read : SerializationInfo → Except String α) (si : SerializationInfo) :
    Except String (List α) :=
  (children si).mapM read

/-- Reading into a set replaces its elements. -/
def getSet (si : SerializationInfo) : Except String (StdSet String) := do
  return Std.ExtTreeSet.ofList (← getList Cxxtools.getString si)

omit [Cxxtools] in
/-- A vector is read back if its elements are. -/
theorem getList_ofList {α : Type} {read : SerializationInfo → Except String α}
    {write : α → SerializationInfo} (hread : ∀ a, read (write a) = .ok a) (values : List α) :
    getList read (ofList write values) = .ok values := by
  rw [getList, ofList, children_arr]
  induction values with
  | nil => rfl
  | cons a values ih =>
      rw [List.map_cons, List.mapM_cons, hread, ih]
      rfl

@[simp]
theorem getSet_ofSet [LawfulCxxtools] (strings : StdSet String) :
    getSet (ofSet strings) = .ok strings := by
  rw [getSet, ofSet, getList_ofList LawfulCxxtools.getString_str]
  exact congrArg _ (StdSet.ofList_toList strings)

end SerializationInfo
