import Clev2er.Python
import Mathlib.Data.List.Forall2
import Mathlib.Data.List.TakeWhile

/-!
# Types of the values of an XML configuration

`xmltodict` gives every value of a configuration file as a string, an empty element as
`None` and a repeated one as a list. `set_xml_dict_types` turns the strings into
booleans, numbers and strings with their environment variables replaced, through
dictionaries nested to any depth. It calls `lower()` on whatever is not a dictionary;
`setXmlDictTypes_iff` says that it does what is documented unless it meets a value
that has no such method.
-/

namespace Clev2er.Config

/-- What the code takes from Python and from the environment of the process. -/
structure XmlRuntime where
  /-- `int(s)`, `none` for a `ValueError`. -/
  int : String → Option Int
  /-- `float(s)`, `none` for a `ValueError`. -/
  float : String → Option (BitVec 64)
  /-- `os.environ.get(name)`. -/
  environ : String → Option String
  /-- The characters that `\w` matches. -/
  isWord : Char → Bool
  isWord_open : isWord '{' = false
  isWord_close : isWord '}' = false

section Code

variable (py : XmlRuntime)

/-! ## `replace_env_variables` -/

/-- The match of the pattern right behind a dollar sign: the name of the variable and
the number of characters that are matched. -/
def matchVariable (s : List Char) : Option (List Char × Nat) :=
  let name := s.takeWhile py.isWord
  if name ≠ [] then some (name, name.length)
  else
    match s with
    | '{' :: rest =>
        let name := rest.takeWhile py.isWord
        if name ≠ [] ∧ (rest.drop name.length).head? = some '}' then some (name, name.length + 2)
        else none
    | _ => none

/-- `os.environ.get(var_name, "")`. -/
def varValue (name : List Char) : List Char := ((py.environ (String.ofList name)).getD "").toList

/-- `re.sub` over the rest of the string, behind `skip` characters of the last match. -/
def substitute : Nat → List Char → List Char
  | _, [] => []
  | skip + 1, _ :: s => substitute skip s
  | 0, c :: s =>
      if c = '$' then
        match matchVariable py s with
        | some (name, length) => varValue py name ++ substitute length s
        | none => c :: substitute 0 s
      else c :: substitute 0 s

/-- `replace_env_variables`. -/
def replaceEnvVariables (inputStr : String) : String :=
  String.ofList (substitute py 0 inputStr.toList)

/-! ## `set_xml_dict_types` -/

/-- `s.lower()`, as far as a comparison with letters of ASCII sees it. -/
def lower (s : String) : String := String.ofList (s.toList.map Char.toLower)

/-- The value that the loop stores for a string. -/
def typeText (value : String) : PyVal :=
  if lower value = "false" then .bool false
  else if lower value = "true" then .bool true
  else if '$' ∈ value.toList then .str (replaceEnvVariables py value)
  else
    match py.int value with
    | some n => .int n
    | none =>
        match py.float value with
        | some bits => .float bits
        | none => .str value

/-- `value.lower()` where there is no such method. -/
def noLower (type : String) : PyExc :=
  ⟨.attributeError, "'" ++ type ++ "' object has no attribute 'lower'"⟩

mutual

/-- The body of the loop, for a value. -/
def typeValue : PyVal → Except PyExc PyVal
  | .dict items =>
      match setXmlDictTypes items with
      | .ok items => .ok (.dict items)
      | .error e => .error e
  | .str value => .ok (typeText py value)
  | .none => .error (noLower "NoneType")
  | .bool _ => .error (noLower "bool")
  | .int _ => .error (noLower "int")
  | .float _ => .error (noLower "float")
  | .list _ => .error (noLower "list")

/-- `set_xml_dict_types`, with the dictionary it leaves. -/
def setXmlDictTypes : List (String × PyVal) → Except PyExc (List (String × PyVal))
  | [] => .ok []
  | (key, value) :: rest =>
      match typeValue value with
      | .error e => .error e
      | .ok value =>
          match setXmlDictTypes rest with
          | .error e => .error e
          | .ok rest => .ok ((key, value) :: rest)

end

end Code

/-! ## The documented types -/

section Documented

variable (py : XmlRuntime)

/-- A name of a variable. -/
def IsName (name : List Char) : Prop := name ≠ [] ∧ ∀ c ∈ name, py.isWord c = true

/-- No name starts here, and no name between braces. -/
def NoVariable (s : List Char) : Prop :=
  ∀ name rest, IsName py name → s ≠ name ++ rest ∧ s ≠ '{' :: (name ++ '}' :: rest)

/-- **The environment-expanded string**: each `$NAME` and `${NAME}`, the name as long as
possible, is replaced by the value of the variable. -/
inductive Expands : List Char → List Char → Prop
  | nil : Expands [] []
  | plain {c : Char} {s t : List Char} : c ≠ '$' → Expands s t → Expands (c :: s) (c :: t)
  | name {name s t : List Char} : IsName py name → (∀ c ∈ s.head?, py.isWord c = false) →
      Expands s t → Expands ('$' :: (name ++ s)) (varValue py name ++ t)
  | braces {name s t : List Char} : IsName py name → Expands s t →
      Expands ('$' :: '{' :: (name ++ '}' :: s)) (varValue py name ++ t)
  | dollar {s t : List Char} : NoVariable py s → Expands s t → Expands ('$' :: s) ('$' :: t)

/-- The letters of a word, each in either case. -/
def Spells (word s : String) : Prop :=
  List.Forall₂ (fun letter c => c = letter ∨ c = letter.toUpper) word.toList s.toList

/-- Neither of the two booleans. -/
def NoBoolean (s : String) : Prop := ¬ Spells "false" s ∧ ¬ Spells "true" s

/-- The documented value of a string. -/
inductive TypedText (s : String) : PyVal → Prop
  | false : Spells "false" s → TypedText s (.bool false)
  | true : Spells "true" s → TypedText s (.bool true)
  | expanded {t : String} : NoBoolean s → '$' ∈ s.toList → Expands py s.toList t.toList →
      TypedText s (.str t)
  | int {n : Int} : NoBoolean s → '$' ∉ s.toList → py.int s = some n → TypedText s (.int n)
  | float {bits : BitVec 64} : NoBoolean s → '$' ∉ s.toList → py.int s = none →
      py.float s = some bits → TypedText s (.float bits)
  | text : NoBoolean s → '$' ∉ s.toList → py.int s = none → py.float s = none →
      TypedText s (.str s)

mutual

/-- The tree with its strings typed. -/
inductive Typed : PyVal → PyVal → Prop
  | text {s : String} {v : PyVal} : TypedText py s v → Typed (.str s) v
  | dict {items items' : List (String × PyVal)} : TypedItems items items' →
      Typed (.dict items) (.dict items')
  | empty : Typed .none .none
  | list {xs xs' : List PyVal} : TypedList xs xs' → Typed (.list xs) (.list xs')

/-- The same keys in the same order, with their values typed. -/
inductive TypedItems : List (String × PyVal) → List (String × PyVal) → Prop
  | nil : TypedItems [] []
  | cons {key : String} {v v' : PyVal} {rest rest' : List (String × PyVal)} : Typed v v' →
      TypedItems rest rest' → TypedItems ((key, v) :: rest) ((key, v') :: rest')

inductive TypedList : List PyVal → List PyVal → Prop
  | nil : TypedList [] []
  | cons {v v' : PyVal} {rest rest' : List PyVal} : Typed v v' → TypedList rest rest' →
      TypedList (v :: rest) (v' :: rest')

end

/-- `set_xml_dict_types` returns, and leaves the tree with its strings typed. -/
def TypesSet (config : List (String × PyVal)) : Prop :=
  ∃ config', setXmlDictTypes py config = .ok config' ∧ TypedItems py config config'

end Documented

mutual

/-- Every leaf is a string: no element is empty and none is repeated. -/
def OnlyText : PyVal → Prop
  | .str _ => True
  | .dict items => OnlyTextIn items
  | _ => False

def OnlyTextIn : List (String × PyVal) → Prop
  | [] => True
  | (_, value) :: rest => OnlyText value ∧ OnlyTextIn rest

end

/-! ## Booleans in any case -/

theorem toLower_eq_iff {c letter : Char} (hlow : 97 ≤ letter.val.toNat)
    (hhigh : letter.val.toNat ≤ 122) : c.toLower = letter ↔ c = letter ∨ c = letter.toUpper := by
  have hdown : ('a'.val - 'A'.val).toNat = 32 := rfl
  have hup : ('A'.val - 'a'.val).toNat = 4294967264 := rfl
  have hrange : 'a'.val ≤ letter.val ∧ letter.val ≤ 'z'.val := ⟨hlow, hhigh⟩
  have hupper : letter.toUpper.val.toNat = letter.val.toNat - 32 := by
    delta Char.toUpper
    rw [dif_pos hrange]
    simp only [UInt32.toNat_add, hup]
    omega
  rw [Char.ext_iff, Char.ext_iff, Char.ext_iff, ← UInt32.toNat_inj, ← UInt32.toNat_inj,
    ← UInt32.toNat_inj, hupper]
  delta Char.toLower
  split
  · next h =>
    have hA : 65 ≤ c.val.toNat := h.1
    have hZ : c.val.toNat ≤ 90 := h.2
    simp only [UInt32.toNat_add, hdown]
    omega
  · next h =>
    have hother : ¬ (65 ≤ c.val.toNat ∧ c.val.toNat ≤ 90) := h
    omega

theorem lower_eq_iff (word s : String)
    (hword : ∀ c ∈ word.toList, 97 ≤ c.val.toNat ∧ c.val.toNat ≤ 122) :
    lower s = word ↔ Spells word s := by
  rw [lower, Spells, ← String.toList_inj, String.toList_ofList]
  generalize word.toList = letters at hword
  generalize s.toList = cs
  induction letters generalizing cs with
  | nil => rw [List.map_eq_nil_iff, List.forall₂_nil_left_iff]
  | cons letter letters ih =>
      obtain ⟨hlow, hhigh⟩ := hword letter List.mem_cons_self
      cases cs with
      | nil => exact ⟨fun h => (List.cons_ne_nil _ _ h.symm).elim, fun h => by cases h⟩
      | cons c cs =>
          rw [List.map_cons, List.cons.injEq, List.forall₂_cons, toLower_eq_iff hlow hhigh,
            ih (fun c hc => hword c (List.mem_cons_of_mem _ hc))]

/-! ## Environment variables -/

section Variables

variable {py : XmlRuntime} {name s t : List Char}

theorem takeWhile_name (hname : IsName py name) (hend : ∀ c ∈ s.head?, py.isWord c = false) :
    (name ++ s).takeWhile py.isWord = name := by
  rw [List.takeWhile_append_of_pos hname.2]
  cases s with
  | nil => exact List.append_nil _
  | cons c s =>
      rw [List.takeWhile_cons_of_neg (by simp [hend c rfl]), List.append_nil]

theorem matchVariable_name (hname : IsName py name) (hend : ∀ c ∈ s.head?, py.isWord c = false) :
    matchVariable py (name ++ s) = some (name, name.length) := by
  unfold matchVariable
  rw [takeWhile_name hname hend]
  exact if_pos hname.1

theorem matchVariable_braces (hname : IsName py name) :
    matchVariable py ('{' :: (name ++ '}' :: s)) = some (name, name.length + 2) := by
  have hnone : ('{' :: (name ++ '}' :: s)).takeWhile py.isWord = [] :=
    List.takeWhile_cons_of_neg (by simp [py.isWord_open])
  have hclose : ∀ c ∈ ('}' :: s).head?, py.isWord c = false := by
    intro c hc
    obtain rfl := Option.some.inj hc
    exact py.isWord_close
  simp only [matchVariable, hnone, takeWhile_name hname hclose, List.drop_left, List.head?_cons]
  simp [hname.1]

/-- A match is a name as long as possible, or a name between braces. -/
theorem matchVariable_some {length : ℕ} (h : matchVariable py s = some (name, length)) :
    IsName py name ∧
      ((∃ rest, (∀ c ∈ rest.head?, py.isWord c = false) ∧ s = name ++ rest) ∨
        ∃ rest, s = '{' :: (name ++ '}' :: rest)) := by
  have hword : ∀ (s : List Char), ∀ c ∈ s.takeWhile py.isWord, py.isWord c = true :=
    fun s c hc => List.mem_takeWhile_imp hc
  simp only [matchVariable] at h
  split at h
  · next hne =>
    obtain ⟨rfl, -⟩ := Prod.mk.inj (Option.some.inj h)
    refine ⟨⟨hne, hword s⟩, .inl ⟨s.dropWhile py.isWord, ?_, List.takeWhile_append_dropWhile.symm⟩⟩
    intro c hc
    have hhead := List.head?_dropWhile_not py.isWord s
    rw [hc] at hhead
    exact hhead
  · next hnone =>
    split at h
    · next rest =>
      split at h
      · next hclosed =>
        obtain ⟨rfl, -⟩ := Prod.mk.inj (Option.some.inj h)
        have hrest := List.prefix_iff_eq_append.mp (List.takeWhile_prefix py.isWord (l := rest))
        rw [List.eq_cons_of_mem_head? hclosed.2] at hrest
        exact ⟨⟨hclosed.1, hword rest⟩, .inr ⟨_, congrArg _ hrest.symm⟩⟩
      · cases h
    · cases h

/-- Without a match there is no variable. -/
theorem noVariable_of_matchVariable (h : matchVariable py s = none) : NoVariable py s := by
  intro name rest hname
  constructor
  · rintro rfl
    -- the name is part of the longest one
    have hlong : IsName py ((name ++ rest).takeWhile py.isWord) := by
      refine ⟨?_, fun c hc => List.mem_takeWhile_imp hc⟩
      rw [List.takeWhile_append_of_pos hname.2]
      exact List.append_ne_nil_of_left_ne_nil hname.1 _
    unfold matchVariable at h
    rw [if_pos hlong.1] at h
    cases h
  · rintro rfl
    rw [matchVariable_braces hname] at h
    cases h

/-- Behind a placeholder between braces. -/
theorem drop_braces (name rest : List Char) :
    (name ++ '}' :: rest).drop (name.length + 1) = rest := by
  rw [← List.drop_drop, List.drop_left, List.drop_one, List.tail_cons]

theorem substitute_skip (skip : ℕ) (s : List Char) :
    substitute py skip s = substitute py 0 (s.drop skip) := by
  induction skip generalizing s with
  | zero => rw [List.drop_zero]
  | succ skip ih =>
      cases s with
      | nil => rfl
      | cons c s => rw [substitute, List.drop_succ_cons, ih]

theorem substitute_dollar (s : List Char) :
    substitute py 0 ('$' :: s) =
      match matchVariable py s with
      | some (name, length) => varValue py name ++ substitute py 0 (s.drop length)
      | none => '$' :: substitute py 0 s := by
  rw [substitute, if_pos rfl]
  cases matchVariable py s with
  | none => rfl
  | some found => exact congrArg _ (substitute_skip _ _)

/-- **The loop of `re.sub` expands the string.** -/
theorem expands_substitute (s : List Char) : Expands py s (substitute py 0 s) := by
  induction hlength : s.length using Nat.strong_induction_on generalizing s with
  | _ n ih =>
  cases s with
  | nil => exact .nil
  | cons c s =>
      rw [List.length_cons] at hlength
      have hrest : ∀ rest : List Char, rest.length ≤ s.length →
          Expands py rest (substitute py 0 rest) :=
        fun rest hle => ih rest.length (by omega) rest rfl
      by_cases hc : c = '$'
      · subst hc
        rw [substitute_dollar]
        cases hmatch : matchVariable py s with
        | none => exact .dollar (noVariable_of_matchVariable hmatch) (hrest s le_rfl)
        | some found =>
            obtain ⟨name, length⟩ := found
            obtain ⟨hname, ⟨rest, hend, rfl⟩ | ⟨rest, rfl⟩⟩ := matchVariable_some hmatch
            · rw [matchVariable_name hname hend] at hmatch
              obtain ⟨-, rfl⟩ := Prod.mk.inj (Option.some.inj hmatch)
              simp only [List.drop_left]
              exact .name hname hend (hrest rest (by simp))
            · rw [matchVariable_braces hname] at hmatch
              obtain ⟨-, rfl⟩ := Prod.mk.inj (Option.some.inj hmatch)
              simp only [List.drop_succ_cons, drop_braces]
              exact .braces hname (hrest rest (by simp; omega))
      · rw [substitute, if_neg hc]
        exact .plain hc (hrest _ le_rfl)

end Variables

/-! ## Where the types are set -/

section Types

variable {py : XmlRuntime}

/-- A string gets its documented value. -/
theorem typedText_typeText (s : String) : TypedText py s (typeText py s) := by
  have hfalse := lower_eq_iff "false" s (by simp)
  have htrue := lower_eq_iff "true" s (by simp)
  rw [typeText]
  split
  · next h => exact .false (hfalse.mp h)
  · next hnotFalse =>
    split
    · next h => exact .true (htrue.mp h)
    · next hnotTrue =>
      have hother : NoBoolean s := ⟨fun h => hnotFalse (hfalse.mpr h), fun h => hnotTrue (htrue.mpr h)⟩
      split
      · next hdollar =>
        refine .expanded hother hdollar ?_
        rw [replaceEnvVariables, String.toList_ofList]
        exact expands_substitute s.toList
      · next hdollar =>
        cases hint : py.int s with
        | some n => exact .int hother hdollar hint
        | none =>
            cases hfloat : py.float s with
            | some bits => exact .float hother hdollar hint hfloat
            | none => exact .text hother hdollar hint hfloat

mutual

theorem typeValue_typed : ∀ v, OnlyText v → ∃ v', typeValue py v = .ok v' ∧ Typed py v v'
  | .str s, _ => ⟨_, rfl, .text (typedText_typeText s)⟩
  | .dict items, h => by
      obtain ⟨items', hrun, htyped⟩ := setXmlDictTypes_typed items h
      exact ⟨.dict items', by rw [typeValue, hrun], .dict htyped⟩

/-- A tree of strings is typed. -/
theorem setXmlDictTypes_typed : ∀ items, OnlyTextIn items → TypesSet py items
  | [], _ => ⟨[], rfl, .nil⟩
  | (key, v) :: rest, h => by
      obtain ⟨v', hv, htyped⟩ := typeValue_typed v h.1
      obtain ⟨rest', hrest, htypedRest⟩ := setXmlDictTypes_typed rest h.2
      refine ⟨(key, v') :: rest', ?_, .cons htyped htypedRest⟩
      rw [setXmlDictTypes, hv]
      simp only [hrest]

end

mutual

theorem onlyText_of_typeValue : ∀ v v', typeValue py v = .ok v' → OnlyText v
  | .str _, _, _ => trivial
  | .dict items, v', h => by
      rw [typeValue] at h
      split at h
      · next items' hrun => exact onlyText_of_setXmlDictTypes items items' hrun
      · cases h
  | .none, _, h | .bool _, _, h | .int _, _, h | .float _, _, h | .list _, _, h => by cases h

/-- At any other leaf the code raises. -/
theorem onlyText_of_setXmlDictTypes :
    ∀ items items', setXmlDictTypes py items = .ok items' → OnlyTextIn items
  | [], _, _ => trivial
  | (key, v) :: rest, items', h => by
      rw [setXmlDictTypes] at h
      split at h
      · cases h
      · next v' hv =>
        split at h
        · cases h
        · next rest' hrest =>
          exact ⟨onlyText_of_typeValue v v' hv, onlyText_of_setXmlDictTypes rest rest' hrest⟩

end

/-- **Where the types are set**: exactly in the trees whose leaves are strings. -/
theorem setXmlDictTypes_iff (py : XmlRuntime) (config : List (String × PyVal)) :
    TypesSet py config ↔ OnlyTextIn config := by
  constructor
  · rintro ⟨config', hrun, -⟩
    exact onlyText_of_setXmlDictTypes config config' hrun
  · exact setXmlDictTypes_typed config

end Types

/-! ## An empty element -/

/-- Letters, digits and the underscore of ASCII. -/
def asciiWord (c : Char) : Bool := c.isAlphanum || c = '_'

theorem asciiWord_open : asciiWord '{' = false := rfl

theorem asciiWord_close : asciiWord '}' = false := rfl

/-- A process without environment variables, and numbers that are whole. -/
def wholeRuntime : XmlRuntime where
  int := String.toInt?
  float := fun _ => none
  environ := fun _ => none
  isWord := asciiWord
  isWord_open := asciiWord_open
  isWord_close := asciiWord_close

/-- A configuration with a boolean in capitals and an empty element. -/
def emptyElement : List (String × PyVal) :=
  [("configuration", .dict [("use_multi_processing", .str "TRUE"), ("l1b_base_dir", .none)])]

/-- A configuration with a repeated element. -/
def repeatedElement : List (String × PyVal) :=
  [("configuration", .dict [("l1b_base_dir", .list [.str "/data/a", .str "/data/b"])])]

/-- **An empty element stops the program**, and so does a repeated one. -/
theorem setXmlDictTypes_raises :
    setXmlDictTypes wholeRuntime emptyElement = .error (noLower "NoneType") ∧
      setXmlDictTypes wholeRuntime repeatedElement = .error (noLower "list") ∧
      ¬ TypesSet wholeRuntime emptyElement ∧ ¬ TypesSet wholeRuntime repeatedElement := by
  have hempty : setXmlDictTypes wholeRuntime emptyElement = .error (noLower "NoneType") := rfl
  have hrepeated : setXmlDictTypes wholeRuntime repeatedElement = .error (noLower "list") := rfl
  refine ⟨hempty, hrepeated, ?_, ?_⟩
  · rintro ⟨config', hrun, -⟩
    cases hempty.symm.trans hrun
  · rintro ⟨config', hrun, -⟩
    cases hrepeated.symm.trans hrun

end Clev2er.Config
