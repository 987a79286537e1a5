import RVDataFusionServer.Library.Sorting

/-!
# Algorithm parameters

The classes of `AlgorithmParam.h` that hold a direction and a numbered list of values, with the
`set` and `get` of each. `set_get_iff` says when `get` returns what `set` was given: one of the
three classes writes its direction where the others read theirs.
-/

namespace RVDataFusionServer

open Library

/-- `DoubleValue`. -/
structure DoubleValue where
  index : Int := 0
  value : Float := 0.0

/-- `PointF`. -/
structure PointF where
  x : Float := 0.0
  y : Float := 0.0

/-- `RectF`. -/
structure RectF where
  x : Float := 0.0
  y : Float := 0.0
  width : Float := 0.0
  height : Float := 0.0

/-- `RectFValue`. -/
structure RectFValue where
  index : Int := 0
  x : Float := 0.0
  y : Float := 0.0
  width : Float := 0.0
  height : Float := 0.0

/-- `PointFArray`. -/
structure PointFArray where
  index : Int := 0
  value : List PointF := []

/-- `TransMatrixItem`. -/
structure TransMatrixItem where
  faceDirection : Int := 0
  value : List DoubleValue := []

/-- `DrivingAreaX`. -/
structure DrivingAreaX where
  flowDirection : Int := 0
  value : List RectFValue := []

/-- `DrivingAreaItem`. -/
structure DrivingAreaItem where
  flowDirection : Int := 0
  value : List PointFArray := []

section Values

variable {ι β : Type}

/-- The loop of `set`: every value with its position, counted from 0. The source counts in an `int`,
so that this is its loop for fewer than `2 ^ 31` values; behind them it has no defined behaviour. -/
def setValues (make : Int → β → ι) (values : List β) : List ι :=
  values.zipIdx.map fun (value, i) => make i value

/-- The comparator of `get`. -/
def indexLess (index : ι → Int) (a b : ι) : Bool := index a < index b

/-- A routine that sorts by the index. -/
def indexSorter (index : ι → Int) : Sorter (indexLess index) :=
  Sorter.ofKey index fun _ _ => decide_eq_true_iff

/-- The end of `get`: `value` is sorted by the index, and its entries are pushed to `values`. -/
def getValues {index : ι → Int} (sorter : Sorter (indexLess index)) (read : ι → β)
    (value : List ι) (values : List β) : List ι × List β :=
  if value = [] then (value, values)
  else
    let value := if value.length > 1 then sorter.sort value else value
    (value, value.foldl (fun values iter => values ++ [read iter]) values)

/-- The entries of `setValues` are numbered in ascending order. -/
theorem setValues_ascending {index : ι → Int} {make : Int → β → ι}
    (hindex : ∀ i v, index (make i v) = i) (values : List β) :
    (setValues make values).Pairwise fun a b =>
      indexLess index a b = true ∧ indexLess index b a = false := by
  rw [setValues, List.pairwise_map]
  have hpositions : (values.zipIdx.map Prod.snd).Pairwise (· < ·) := by
    rw [List.zipIdx_map_snd]
    exact List.pairwise_lt_range'
  rw [List.pairwise_map] at hpositions
  apply hpositions.imp
  intro a b hlt
  simp only [indexLess, hindex, decide_eq_true_eq, decide_eq_false_iff_not]
  omega

/-- What `get` makes of the entries of `set`. -/
theorem getValues_setValues {index : ι → Int} (sorter : Sorter (indexLess index))
    (make : Int → β → ι) (read : ι → β) (hindex : ∀ i v, index (make i v) = i)
    (hread : ∀ i v, read (make i v) = v) (values : List β) :
    getValues sorter read (setValues make values) [] = (setValues make values, values) := by
  have hpush (value : List ι) (out : List β) :
      value.foldl (fun values iter => values ++ [read iter]) out = out ++ value.map read := by
    induction value generalizing out with
    | nil => exact (List.append_nil out).symm
    | cons iter value ih =>
        rw [List.foldl_cons, ih, List.append_assoc]
        rfl
  have hvalues : (setValues make values).map read = values := by
    rw [setValues, List.map_map]
    calc values.zipIdx.map (read ∘ fun (value, i) => make i value)
        = values.zipIdx.map Prod.fst := List.map_congr_left fun p _ => hread p.2 p.1
      _ = values := List.zipIdx_map_fst 0 values
  rw [getValues, sorter.sort_eq_self (setValues_ascending hindex values), ite_self]
  dsimp only
  rw [hpush, hvalues]
  by_cases hempty : setValues make values = []
  · rw [hempty] at hvalues
    rw [if_pos hempty, ← hvalues]
    rfl
  · rw [if_neg hempty]
    rfl

end Values

/-- `TransMatrixItem::set`. -/
def TransMatrixItem.set (_ : TransMatrixItem) (index : Int) (values : List Float) :
    TransMatrixItem where
  faceDirection := index
  value := setValues DoubleValue.mk values

/-- `TransMatrixItem::get`, with the object, the index and the values that it leaves. -/
def TransMatrixItem.get (sorter : Sorter (indexLess DoubleValue.index)) (item : TransMatrixItem)
    (_ : Int) (values : List Float) : TransMatrixItem × Int × List Float :=
  let index := item.faceDirection
  let (value, values) := getValues sorter DoubleValue.value item.value values
  ({ item with value }, index, values)

/-- `DrivingAreaX::set`. -/
def DrivingAreaX.set (_ : DrivingAreaX) (index : Int) (values : List RectF) : DrivingAreaX where
  flowDirection := index
  value := setValues (fun i (v : RectF) => ⟨i, v.x, v.y, v.width, v.height⟩) values

/-- `DrivingAreaX::get`. -/
def DrivingAreaX.get (sorter : Sorter (indexLess RectFValue.index)) (item : DrivingAreaX)
    (_ : Int) (values : List RectF) : DrivingAreaX × Int × List RectF :=
  let index := item.flowDirection
  let (value, values) := getValues sorter
    (fun iter : RectFValue => (⟨iter.x, iter.y, iter.width, iter.height⟩ : RectF)) item.value values
  ({ item with value }, index, values)

/-- `DrivingAreaItem::set`. -/
def DrivingAreaItem.set (_ : DrivingAreaItem) (index : Int) (values : List (List PointF)) :
    DrivingAreaItem where
  flowDirection := index
  value := setValues PointFArray.mk values

/-- `DrivingAreaItem::get`. Its first assignment is the other way round. -/
def DrivingAreaItem.get (sorter : Sorter (indexLess PointFArray.index)) (item : DrivingAreaItem)
    (index : Int) (values : List (List PointF)) :
    DrivingAreaItem × Int × List (List PointF) :=
  let item : DrivingAreaItem := { item with flowDirection := index }
  let (value, values) := getValues sorter PointFArray.value item.value values
  ({ item with value }, index, values)

/-- The round trip of a class: what `get` leaves after `set`, whatever the object was before and
whatever is in the variable of the index. -/
def RoundTrip {Item β : Type} (set : Item → Int → List β → Item)
    (get : Item → Int → List β → Item × Int × List β) (item : Item) (i : Int) (vs : List β)
    (index : Int) : Prop :=
  get (set item i vs) index [] = (set item i vs, i, vs)

theorem TransMatrixItem.roundTrip (sorter : Sorter (indexLess DoubleValue.index))
    (item : TransMatrixItem) (i : Int) (vs : List Float) (index : Int) :
    RoundTrip TransMatrixItem.set (TransMatrixItem.get sorter) item i vs index := by
  have hvalues := getValues_setValues sorter DoubleValue.mk DoubleValue.value (fun _ _ => rfl)
    (fun _ _ => rfl) vs
  rw [RoundTrip, TransMatrixItem.get, TransMatrixItem.set, hvalues]

theorem DrivingAreaX.roundTrip (sorter : Sorter (indexLess RectFValue.index))
    (item : DrivingAreaX) (i : Int) (vs : List RectF) (index : Int) :
    RoundTrip DrivingAreaX.set (DrivingAreaX.get sorter) item i vs index := by
  have hvalues := getValues_setValues sorter
    (fun i (v : RectF) => ⟨i, v.x, v.y, v.width, v.height⟩)
    (fun iter : RectFValue => (⟨iter.x, iter.y, iter.width, iter.height⟩ : RectF))
    (fun _ _ => rfl) (fun _ _ => rfl) vs
  rw [RoundTrip, DrivingAreaX.get, DrivingAreaX.set, hvalues]

/-- What `get` leaves: the index is that of the caller, and the object has it too. -/
theorem DrivingAreaItem.get_set (sorter : Sorter (indexLess PointFArray.index))
    (item : DrivingAreaItem) (i : Int) (vs : List (List PointF)) (index : Int) :
    (item.set i vs).get sorter index [] = (item.set index vs, index, vs) := by
  have hvalues := getValues_setValues sorter PointFArray.mk PointFArray.value (fun _ _ => rfl)
    (fun _ _ => rfl) vs
  rw [DrivingAreaItem.get, DrivingAreaItem.set, hvalues]
  rfl

/-- The round trip of the third class, exactly for an index that was right before. -/
theorem DrivingAreaItem.roundTrip_iff (sorter : Sorter (indexLess PointFArray.index))
    (item : DrivingAreaItem) (i : Int) (vs : List (List PointF)) (index : Int) :
    RoundTrip DrivingAreaItem.set (DrivingAreaItem.get sorter) item i vs index ↔ index = i := by
  rw [RoundTrip, DrivingAreaItem.get_set]
  constructor
  · intro h
    exact (Prod.mk.inj (Prod.mk.inj h).2).1
  · intro h
    rw [h]

/-- `get` returns what `set` was given, in two of the classes always and in the third one exactly
if the index variable holds the direction already. -/
theorem set_get_iff (matrixSorter : Sorter (indexLess DoubleValue.index))
    (rectSorter : Sorter (indexLess RectFValue.index))
    (pointSorter : Sorter (indexLess PointFArray.index)) :
    (∀ item i vs index,
      RoundTrip TransMatrixItem.set (TransMatrixItem.get matrixSorter) item i vs index) ∧
    (∀ item i vs index,
      RoundTrip DrivingAreaX.set (DrivingAreaX.get rectSorter) item i vs index) ∧
    ∀ item i vs index,
      RoundTrip DrivingAreaItem.set (DrivingAreaItem.get pointSorter) item i vs index ↔ index = i :=
  ⟨TransMatrixItem.roundTrip matrixSorter, DrivingAreaX.roundTrip rectSorter,
    DrivingAreaItem.roundTrip_iff pointSorter⟩

/-- Direction 1 is read back as 0. -/
theorem set_get_direction :
    ¬ RoundTrip DrivingAreaItem.set (DrivingAreaItem.get (indexSorter PointFArray.index))
      {} 1 [[{}]] 0 := by
  rw [DrivingAreaItem.roundTrip_iff]
  exact Int.zero_ne_one

end RVDataFusionServer
