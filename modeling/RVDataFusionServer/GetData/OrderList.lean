import RVDataFusionServer.Common.Numeric
import RVDataFusionServer.Library.Erasing
import RVDataFusionServer.Library.Sorting

/-!
# The list of recorded frames

`GetOrderListFileName` of `GetData.cpp` erases the names that are no records from the list of a
directory and sorts the rest by the time of the camera. It erases while it walks over the list by
index, and `listed_iff` says for which directories the list is right all the same.
-/

namespace RVDataFusionServer

open Library

/-- `std::string::find`, with `none` for `npos`. -/
def find (pattern : List UInt8) : List UInt8 → Option Nat
  | [] => if pattern = [] then some 0 else none
  | c :: text =>
      if pattern.isPrefixOf (c :: text) then some 0 else (find pattern text).map (· + 1)

/-- `std::string::substr` from a position inside of the text. The count is a `size_t`, so that a
negative one reaches behind the end. -/
def substr (text : List UInt8) (pos : Nat) (count : Int) : List UInt8 :=
  (text.drop pos).take (count % 2 ^ 64).toNat

/-- `atoll`, as a `uint64_t`. -/
def atoll (text : List UInt8) : UInt64 := UInt64.ofInt (strtol text)

/-- A pattern is found where the text goes on with it. -/
theorem find_eq_some {pattern text : List UInt8} {i : Nat} (h : find pattern text = some i) :
    ∃ front rest, text = front ++ pattern ++ rest ∧ front.length = i := by
  induction text generalizing i with
  | nil =>
      rw [find] at h
      by_cases hnil : pattern = []
      · rw [if_pos hnil] at h
        rw [hnil]
        exact ⟨[], [], rfl, Option.some.inj h⟩
      · rw [if_neg hnil] at h
        cases h
  | cons c text ih =>
      rw [find] at h
      by_cases hprefix : pattern.isPrefixOf (c :: text) = true
      · rw [if_pos hprefix] at h
        obtain ⟨rest, hrest⟩ := List.isPrefixOf_iff_prefix.mp hprefix
        exact ⟨[], rest, hrest.symm, Option.some.inj h⟩
      · rw [if_neg hprefix] at h
        obtain ⟨j, hj, rfl⟩ := Option.map_eq_some_iff.mp h
        obtain ⟨front, rest, htext, hlength⟩ := ih hj
        refine ⟨c :: front, rest, ?_, ?_⟩
        · rw [htext]
          rfl
        · rw [List.length_cons, hlength]

/-- A pattern is found exactly in the texts that contain it. -/
theorem find_isSome_iff (pattern text : List UInt8) :
    (find pattern text).isSome = true ↔ pattern <:+: text := by
  constructor
  · intro h
    obtain ⟨i, hi⟩ := Option.isSome_iff_exists.mp h
    obtain ⟨front, rest, htext, -⟩ := find_eq_some hi
    exact ⟨front, rest, htext.symm⟩
  · intro h
    induction text with
    | nil =>
        rw [find, if_pos (List.infix_nil.mp h)]
        rfl
    | cons c text ih =>
        rw [find]
        by_cases hprefix : pattern.isPrefixOf (c :: text) = true
        · rw [if_pos hprefix]
          rfl
        · rw [if_neg hprefix, Option.isSome_map]
          apply ih
          obtain hhead | htail := List.infix_cons_iff.mp h
          · exact absurd (List.isPrefixOf_iff_prefix.mpr hhead) hprefix
          · exact htail

namespace GetData

/-- `_ct`. -/
def ct : List UInt8 := [0x5F, 0x63, 0x74]

/-- `_rt`. -/
def rt : List UInt8 := [0x5F, 0x72, 0x74]

/-- `getCameraTimestamp`: what is between the two marks of a name. -/
def getCameraTimestamp (name : List UInt8) : List UInt8 :=
  match find ct name, find rt name with
  | some begin, some end_ => substr name (begin + 3) ((end_ : Int) - (begin + 3))
  | _, _ => []

/-- What is between the second mark of a name and its last four characters. -/
def getRecordTimestamp (name : List UInt8) (end_ : Nat) : List UInt8 :=
  substr name (end_ + 3) (((name.length : Int) - 4) - (end_ + 3))

/-- `compareTimestamp`. -/
def compareTimestamp (a b : List UInt8) : Bool :=
  atoll (getCameraTimestamp a) < atoll (getCameraTimestamp b)

/-- A routine that sorts by the time of the camera. -/
def timestampSorter : Sorter compareTimestamp :=
  Sorter.ofKey (fun name => (atoll (getCameraTimestamp name)).toNat) fun _ _ =>
    decide_eq_true_iff.trans UInt64.lt_iff_toNat_lt

/-- The body of the loop: whether the name is erased. -/
def isErased (iter : List UInt8) : Bool :=
  match find ct iter, find rt iter with
  | some begin, some end_ =>
      let cV := atoll (substr iter (begin + 3) ((end_ : Int) - (begin + 3)))
      let rV := atoll (getRecordTimestamp iter end_)
      cV = 0 || rV = 0
  | _, _ => true

/-- `GetOrderListFileName` of the names that `GetFiles` returns: its return value and the list that
it assigns. -/
def getOrderListFileName (sorter : Sorter compareTimestamp) (files : List (List UInt8)) :
    Int × List (List UInt8) :=
  let files := eraseLoop isErased files 0
  let files := sorter.sort files
  (files.length, files)

/-- The name of a record: both marks, and a number that is not 0 behind each of them. -/
def Qualified (name : List UInt8) : Prop :=
  ct <:+: name ∧ rt <:+: name ∧ atoll (getCameraTimestamp name) ≠ 0 ∧
    ∀ end_, find rt name = some end_ → atoll (getRecordTimestamp name end_) ≠ 0

theorem isErased_eq_false_iff (name : List UInt8) : isErased name = false ↔ Qualified name := by
  rw [Qualified, ← find_isSome_iff, ← find_isSome_iff, isErased, getCameraTimestamp]
  cases hct : find ct name with
  | none => simp
  | some begin =>
      cases hrt : find rt name with
      | none => simp
      | some end_ => simp

instance decidableQualified (name : List UInt8) : Decidable (Qualified name) :=
  decidable_of_iff _ (isErased_eq_false_iff name)

/-- The list holds exactly the names of records, in the order of the camera's time. -/
def Listed (sorter : Sorter compareTimestamp) (files : List (List UInt8)) : Prop :=
  (getOrderListFileName sorter files).2.Perm (files.filter fun name => Qualified name) ∧
    (getOrderListFileName sorter files).2.Pairwise fun a b =>
      atoll (getCameraTimestamp a) ≤ atoll (getCameraTimestamp b)

/-- Whatever is in the list is in order. -/
theorem list_sorted (sorter : Sorter compareTimestamp) (files : List (List UInt8)) :
    (getOrderListFileName sorter files).2.Pairwise fun a b =>
      atoll (getCameraTimestamp a) ≤ atoll (getCameraTimestamp b) := by
  apply (sorter.sorted (eraseLoop isErased files 0)).imp
  intro a b h
  exact UInt64.not_lt.mp (of_decide_eq_false h)

/-- The list holds the names of records, exactly if of two neighbours one is such a name. -/
theorem list_perm_iff (sorter : Sorter compareTimestamp) (files : List (List UInt8)) :
    (getOrderListFileName sorter files).2.Perm (files.filter fun name => Qualified name) ↔
      files.IsChain fun a b => Qualified a ∨ Qualified b := by
  have hfilter : (files.filter fun name => Qualified name) =
      files.filter fun name => !isErased name := by
    apply List.filter_congr
    intro name _
    rw [Bool.eq_iff_iff, decide_eq_true_iff, Bool.not_eq_true', isErased_eq_false_iff]
  have hsort := sorter.perm (eraseLoop isErased files 0)
  have hloop := @eraseLoop_perm_filter_iff _ isErased files
  simp only [isErased_eq_false_iff] at hloop
  rw [hfilter, ← hloop]
  exact ⟨fun h => hsort.symm.trans h, fun h => hsort.trans h⟩

/-- The list of a directory is right exactly if no two names that are to be erased are adjacent in
the order of the directory. -/
theorem listed_iff (sorter : Sorter compareTimestamp) (files : List (List UInt8)) :
    Listed sorter files ↔ files.IsChain fun a b => Qualified a ∨ Qualified b := by
  rw [Listed, list_perm_iff]
  exact and_iff_left (list_sorted sorter files)

/-- Of the names `a` and `b` the second one stays. -/
theorem listed_two_names : ¬ Listed timestampSorter [[0x61], [0x62]] := by
  intro h
  have hchain := (list_perm_iff _ _).mp h.1
  rw [List.isChain_cons_cons] at hchain
  revert hchain
  decide +kernel

end GetData

end RVDataFusionServer
