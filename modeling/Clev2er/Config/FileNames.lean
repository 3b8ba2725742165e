import Clev2er.Python
import Mathlib.Data.List.Sort

/-!
# Names of the configuration files of a chain

The chain configurations and the algorithm lists of a chain live in one
directory each, as files named `<chain>_<B><VVV>.xml` or `<chain>_<B><VVV>.yml`:
`B` is the baseline, a letter `A..Z`, and `VVV` the zero padded version.

A directory is the list of its names in the order `glob.glob` enumerates them,
which no one promises to be any order in particular. `ListedFile` is a file of
the naming scheme; the lemmas below say what each glob pattern of the loaders
finds among such files.
-/

namespace Clev2er.Config

/-- The two file formats. -/
inductive Format where
  | xml
  | yml
deriving DecidableEq, Repr

def Format.suffix : Format → String
  | .xml => ".xml"
  | .yml => ".yml"

/-- `f"{version:03d}"`. -/
def formatVersion (version : Nat) : String :=
  let digits := Nat.toDigits 10 version
  String.ofList (List.replicate (3 - digits.length) '0' ++ digits)

/-- `f"{chain_name}_{baseline}{version:03d}.xml"`, or `.yml`. -/
def fileName (chainName baseline : String) (version : Nat) (fmt : Format) : String :=
  chainName ++ "_" ++ baseline ++ formatVersion version ++ fmt.suffix

/-! ## Directories -/

/-- A directory: its path, and its names in enumeration order. -/
structure Directory where
  path : String
  listing : List String

def Directory.join (d : Directory) (name : String) : String :=
  d.path ++ "/" ++ name

/-- `os.path.isfile`, on a name in the directory. -/
def Directory.isfile (d : Directory) (name : String) : Bool :=
  decide (name ∈ d.listing)

/-- `glob.glob(f"{dir}/{name}")` for a name without wildcards. -/
def Directory.globName (d : Directory) (name : String) : List String :=
  (d.listing.filter (fun n => decide (n = name))).map d.join

/-- `glob.glob(f"{dir}/{stem}*{suffix}")`. -/
def Directory.globStar (d : Directory) (stem suffix : String) : List String :=
  (d.listing.filter (fun n => decide (stem.toList <+: n.toList ∧
    suffix.toList <:+ n.toList ∧ stem.length + suffix.length ≤ n.length))).map d.join

/-! ## Files of the naming scheme -/

/-- A file named `<chain>_<B><VVV>.<format>`. -/
structure ListedFile where
  baseline : Char
  version : Nat
  format : Format
  baseline_upper : 'A' ≤ baseline ∧ baseline ≤ 'Z'
  version_three_digits : version < 1000
deriving DecidableEq

def ListedFile.name (chainName : String) (f : ListedFile) : String :=
  fileName chainName (String.singleton f.baseline) f.version f.format

/-- The directory of a chain that holds `files`, enumerated in that order. -/
def chainDirectory (path chainName : String) (files : List ListedFile) : Directory where
  path := path
  listing := files.map (ListedFile.name chainName)

@[simp] theorem chainDirectory_path (path chainName : String) (files : List ListedFile) :
    (chainDirectory path chainName files).path = path := rfl

@[simp] theorem chainDirectory_listing (path chainName : String)
    (files : List ListedFile) :
    (chainDirectory path chainName files).listing =
      files.map (ListedFile.name chainName) := rfl

/-! ## Reading a name back -/

theorem formatVersion_toList (v : Nat) :
    (formatVersion v).toList =
      List.replicate (3 - (Nat.toDigits 10 v).length) '0' ++ Nat.toDigits 10 v := by
  simp [formatVersion]

/-- The three characters of a version below 1000. -/
theorem formatVersion_length {v : Nat} (h : v < 1000) :
    (formatVersion v).toList.length = 3 := by
  have hle : (Nat.toDigits 10 v).length ≤ 3 :=
    (Nat.length_toDigits_le_iff (by decide) (by decide)).mpr h
  rw [formatVersion_toList, List.length_append, List.length_replicate]
  omega

/-- `int(f"{v:03d}") == v`. -/
theorem ofDigitChars_formatVersion (v : Nat) :
    Nat.ofDigitChars 10 (formatVersion v).toList 0 = v := by
  rw [formatVersion_toList, Nat.ofDigitChars_append, Nat.ofDigitChars_replicate_zero,
    Nat.mul_zero]
  exact Nat.ofDigitChars_toDigits (by decide) (by decide)

theorem formatVersion_injective {v w : Nat} (h : formatVersion v = formatVersion w) :
    v = w := by
  rw [← ofDigitChars_formatVersion v, ← ofDigitChars_formatVersion w, h]

theorem ListedFile.name_toList (chainName : String) (f : ListedFile) :
    (f.name chainName).toList =
      (chainName.toList ++ ['_', f.baseline]) ++
        ((formatVersion f.version).toList ++ f.format.suffix.toList) := by
  simp [ListedFile.name, fileName, String.toList_append]

theorem Format.suffix_length (fmt : Format) : fmt.suffix.toList.length = 4 := by
  cases fmt <;> rfl

theorem Format.suffix_injective {a b : Format} (h : a.suffix.toList = b.suffix.toList) :
    a = b := by
  cases a <;> cases b <;> first | rfl | exact absurd h (by decide)

/-- `f"{chain}_{b}*.xml"` finds exactly the files of baseline `b` in that
format. -/
theorem ListedFile.matches_star_iff (chainName : String) (b : Char) (fmt : Format)
    (f : ListedFile) :
    ((chainName ++ "_" ++ String.singleton b).toList <+: (f.name chainName).toList ∧
      fmt.suffix.toList <:+ (f.name chainName).toList ∧
      (chainName ++ "_" ++ String.singleton b).length + fmt.suffix.length ≤
        (f.name chainName).length) ↔
      f.baseline = b ∧ f.format = fmt := by
  have hstem : (chainName ++ "_" ++ String.singleton b).toList =
      chainName.toList ++ ['_', b] := by
    simp [String.toList_append]
  rw [hstem, f.name_toList]
  constructor
  · rintro ⟨hpre, hsuf, -⟩
    constructor
    · have hpre' := (List.prefix_append_right_inj chainName.toList).mp
        (by simpa only [List.append_assoc] using hpre)
      have hb : b = f.baseline := by simpa using hpre'
      exact hb.symm
    · have hsuf' : fmt.suffix.toList <:+ f.format.suffix.toList := by
        refine List.suffix_of_suffix_length_le hsuf ?_ ?_
        · exact (List.suffix_append _ _).trans (List.suffix_append _ _)
        · simp [Format.suffix_length]
      have heq := hsuf'.eq_of_length (by simp [Format.suffix_length])
      exact (Format.suffix_injective heq).symm
  · rintro ⟨rfl, rfl⟩
    refine ⟨List.prefix_append _ _, ?_, ?_⟩
    · exact (List.suffix_append _ _).trans (List.suffix_append _ _)
    · have hname := congrArg List.length (f.name_toList chainName)
      have hstem' := congrArg List.length hstem
      simp only [String.length_toList, List.length_append] at hname hstem' ⊢
      omega

/-- A full name determines baseline, version and format. -/
theorem ListedFile.name_eq_fileName_iff (chainName : String) (b : Char) (v : Nat)
    (fmt : Format) (f : ListedFile) :
    f.name chainName = fileName chainName (String.singleton b) v fmt ↔
      f.baseline = b ∧ f.version = v ∧ f.format = fmt := by
  constructor
  · intro h
    have hl := congrArg String.toList h
    rw [f.name_toList] at hl
    simp only [fileName, String.toList_append, String.toList_singleton,
      List.append_assoc, List.append_cancel_left_eq] at hl
    have hl' : '_' :: f.baseline ::
        ((formatVersion f.version).toList ++ f.format.suffix.toList) =
        '_' :: b :: ((formatVersion v).toList ++ fmt.suffix.toList) := by
      simpa using hl
    have hb : f.baseline = b := (List.cons.inj (List.cons.inj hl').2).1
    have hrest := (List.cons.inj (List.cons.inj hl').2).2
    obtain ⟨hv, hfmt⟩ := List.append_inj' hrest (by simp [Format.suffix_length])
    exact ⟨hb, formatVersion_injective (String.toList_inj.mp hv),
      Format.suffix_injective hfmt⟩
  · rintro ⟨rfl, rfl, rfl⟩
    rfl

/-! ## What the globs find -/

variable (path chainName : String) (files : List ListedFile)

/-- The files of one baseline and format, in enumeration order. -/
def ofBaseline (files : List ListedFile) (b : Char) (fmt : Format) : List ListedFile :=
  files.filter (fun f => decide (f.baseline = b ∧ f.format = fmt))

theorem mem_ofBaseline {b : Char} {fmt : Format} {f : ListedFile} :
    f ∈ ofBaseline files b fmt ↔ f ∈ files ∧ f.baseline = b ∧ f.format = fmt := by
  simp [ofBaseline]

theorem globStar_chainDirectory (b : Char) (fmt : Format) :
    (chainDirectory path chainName files).globStar
        (chainName ++ "_" ++ String.singleton b) fmt.suffix =
      (ofBaseline files b fmt).map
        (fun f => (chainDirectory path chainName files).join (f.name chainName)) := by
  unfold Directory.globStar ofBaseline
  rw [chainDirectory_listing, List.filter_map, List.map_map]
  congr 1
  apply List.filter_congr
  intro f _
  simp only [Function.comp, decide_eq_decide]
  exact f.matches_star_iff chainName b fmt

theorem globName_chainDirectory (b : Char) (v : Nat) (fmt : Format) :
    (chainDirectory path chainName files).globName
        (fileName chainName (String.singleton b) v fmt) =
      ((ofBaseline files b fmt).filter (fun f => decide (f.version = v))).map
        (fun f => (chainDirectory path chainName files).join (f.name chainName)) := by
  unfold Directory.globName ofBaseline
  rw [chainDirectory_listing, List.filter_map, List.map_map, List.filter_filter]
  congr 1
  apply List.filter_congr
  intro f _
  simp only [Function.comp, ← Bool.decide_and, decide_eq_decide,
    f.name_eq_fileName_iff chainName b v fmt]
  tauto

theorem isfile_chainDirectory (b : Char) (v : Nat) (fmt : Format) :
    (chainDirectory path chainName files).isfile
        (fileName chainName (String.singleton b) v fmt) = true ↔
      ∃ f ∈ files, f.baseline = b ∧ f.version = v ∧ f.format = fmt := by
  simp only [Directory.isfile, chainDirectory_listing, List.mem_map,
    decide_eq_true_eq, ListedFile.name_eq_fileName_iff]

end Clev2er.Config
