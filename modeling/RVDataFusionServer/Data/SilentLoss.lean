import RVDataFusionServer.Data.TransparentTransmission

/-!
# Items that are lost in passing

`TransparentTransmission` reads the first item of a lane and erases the first item in a second
step. A push on the full lane in between drops the item that was read, so that `eraseBegin` removes
the one behind it. `lossless_iff` says that nothing else goes wrong.
-/

namespace RVDataFusionServer.Transmission

open Library Execution

variable {I : Type}

/-- What `eraseBegin` removes is the item in hand. -/
def ErasesHand (output : Option (Option (Sourced I) × Sourced I)) : Prop :=
  ∀ removed cur, output = some (removed, cur) → removed = some cur

/-- Every pushed item is in a lane, in hand, handed to `pushO`, or dropped by a push on a full
lane. -/
def Accounted (s : Transmission I) : Prop :=
  ∀ item ∈ s.pushed, (∃ lane, item ∈ s.unit.itemsOf lane) ∨ item ∈ s.control.inHand ∨
    item ∈ s.handed ∨ item ∈ s.evicted

/-- Nothing is lost silently in a run: every item that is erased is the one that is handed on, and
all others are accounted for at any time. -/
def Lossless [Inhabited I] (s : Transmission I) (inputs : List (Input I)) : Prop :=
  (∀ output ∈ outputs step s inputs, ErasesHand output) ∧ Always step Accounted s inputs

/-- When `eraseBegin` is executed, no push has come to its lane at capacity since `getIndex`. -/
def Undisturbed (s : Transmission I) : Input I → Prop
  | .task =>
      match s.control with
      | .eraseBegin _ _ => s.disturbed = false
      | _ => True
  | .pushI _ _ => True
  | .popO => True

/-- The item that was read is the first one in its lane until a push on the full lane drops it. -/
structure Tracks (s : Transmission I) : Prop where
  ordered : s.Ordered
  mem_pushed : ∀ lane, ∀ item ∈ s.unit.itemsOf lane, item ∈ s.pushed
  lane_nodup : ∀ lane, (s.unit.itemsOf lane).Nodup
  hand_pushed : ∀ item ∈ s.control.inHand, item ∈ s.pushed
  reading : ∀ lane, s.control = .getIndex lane → s.unit.itemsOf lane ≠ []
  erasing : ∀ lane cur, s.control = .eraseBegin lane cur →
    if s.disturbed then s.unit.itemsOf lane ≠ [] ∧ cur ∉ s.unit.itemsOf lane
    else (s.unit.itemsOf lane).head? = some cur

variable {s : Transmission I}

/-- The item of a push is new. -/
theorem Tracks.fresh (h : s.Tracks) (frame : I) (lane : Nat) :
    (⟨some lane, s.pushed.length, frame⟩ : Sourced I) ∉ s.pushed := by
  intro hmem
  exact absurd (h.ordered.numbers _ hmem) (Nat.lt_irrefl _)

/-- A push on the lane that is being read leaves the item that was read in front, or drops it. -/
theorem Tracks.erasing_pushI (h : s.Tracks) (frame : I) {lane : Nat}
    {queue : Vector (Sourced I)} (hqueue : s.unit.iQueueVector[lane]? = some queue)
    {cur : Sourced I} (hcontrol : s.control = .eraseBegin lane cur) :
    if s.disturbed || decide queue.Full then
      (queue.push ⟨some lane, s.pushed.length, frame⟩).q ≠ [] ∧
        cur ∉ (queue.push ⟨some lane, s.pushed.length, frame⟩).q
    else (queue.push ⟨some lane, s.pushed.length, frame⟩).q.head? = some cur := by
  set item : Sourced I := ⟨some lane, s.pushed.length, frame⟩ with hitem
  have herasing := h.erasing lane cur hcontrol
  have hnodup := h.lane_nodup lane
  rw [itemsOf_eq hqueue] at herasing hnodup
  have hne : cur ≠ item := by
    intro heq
    have hhand : cur ∈ s.pushed := h.hand_pushed cur (by rw [hcontrol]; simp [Control.inHand])
    rw [heq] at hhand
    exact h.fresh frame lane hhand
  have hnonempty : queue.q ≠ [] := by
    intro hempty
    rw [hempty] at herasing
    cases hdist : s.disturbed <;> simp [hdist] at herasing
  obtain ⟨first, others, hq⟩ := List.exists_cons_of_ne_nil hnonempty
  have hlong : (queue.push item).q ≠ [] := Vector.push_ne_nil hnonempty item
  cases hdist : s.disturbed with
  | true =>
      rw [hdist] at herasing
      refine ⟨hlong, ?_⟩
      intro hmem
      rcases Vector.mem_push hmem with hold | hnew
      · exact herasing.2 hold
      · exact hne hnew
  | false =>
      rw [hdist, hq] at herasing
      obtain rfl : first = cur := Option.some.inj herasing
      by_cases hfull : queue.Full
      · -- the push drops the item that was read, and leaves no second one of its kind
        rw [show (false || decide queue.Full) = true from by simp [hfull]]
        refine ⟨hlong, ?_⟩
        rw [Vector.push_of_full hfull]
        rw [hq] at hnodup
        show first ∉ (queue.q ++ [item]).tail
        rw [hq]
        intro hmem
        rcases List.mem_append.mp hmem with hold | hnew
        · exact (List.nodup_cons.mp hnodup).1 hold
        · exact hne (List.mem_singleton.mp hnew)
      · rw [show (false || decide queue.Full) = false from by simp [hfull]]
        rw [Vector.push_of_not_full hfull]
        show (queue.q ++ [item]).head? = some first
        rw [hq]
        rfl

/-- A push keeps track. -/
theorem Tracks.pushI (h : s.Tracks) (frame : I) (lane : Nat) : (s.pushI frame lane).Tracks := by
  cases hqueue : s.unit.iQueueVector[lane]? with
  | none =>
      rw [pushI_none frame hqueue]
      exact h
  | some queue =>
      have hpushed := pushed_pushI frame hqueue
      set item : Sourced I := ⟨some lane, s.pushed.length, frame⟩
      have hcontrol := control_pushI s frame lane
      have hitems := itemsOf_pushI frame hqueue
      constructor
      case ordered => exact h.ordered.pushI frame lane
      case mem_pushed =>
        intro i x hx
        rw [hitems] at hx
        rw [hpushed, List.mem_append]
        split at hx
        · rcases Vector.mem_push hx with hold | hnew
          · rw [← itemsOf_eq hqueue] at hold
            exact .inl (h.mem_pushed lane x hold)
          · exact .inr (List.mem_singleton.mpr hnew)
        · exact .inl (h.mem_pushed i x hx)
      case lane_nodup =>
        intro i
        rw [hitems]
        split
        · have hold := h.lane_nodup lane
          rw [itemsOf_eq hqueue] at hold
          refine List.Nodup.sublist (Vector.push_sublist queue item) ?_
          refine List.nodup_append.mpr ⟨hold, List.nodup_singleton _, ?_⟩
          intro x hx y hy heq
          obtain rfl := List.mem_singleton.mp hy
          rw [← itemsOf_eq hqueue, heq] at hx
          exact h.fresh frame lane (h.mem_pushed lane _ hx)
        · exact h.lane_nodup i
      case hand_pushed =>
        intro x hx
        rw [hcontrol] at hx
        rw [hpushed, List.mem_append]
        exact .inl (h.hand_pushed x hx)
      case reading =>
        intro i hreading
        rw [hcontrol] at hreading
        have hnonempty := h.reading i hreading
        rw [hitems]
        split
        · next hi =>
            subst hi
            rw [itemsOf_eq hqueue] at hnonempty
            exact Vector.push_ne_nil hnonempty item
        · exact hnonempty
      case erasing =>
        intro i cur herasing
        rw [hcontrol] at herasing
        have hold := h.erasing i cur herasing
        have hdisturbed : (s.pushI frame lane).disturbed =
            (s.disturbed || (i == lane && decide queue.Full)) := by
          simp only [Transmission.pushI, hqueue, herasing]
        rw [hitems, hdisturbed]
        by_cases hi : lane = i
        · subst hi
          rw [if_pos rfl, beq_self_eq_true, Bool.true_and]
          exact h.erasing_pushI frame hqueue herasing
        · have hne : (i == lane) = false := by simpa using fun heq => hi heq.symm
          rw [if_neg hi, hne, Bool.false_and, Bool.or_false]
          exact hold

/-- A step that leaves the lanes and the pushed items keeps track, if the task does not go on to
read or to erase. -/
theorem Tracks.congr {other : Transmission I} (h : s.Tracks) (hordered : other.Ordered)
    (hpushed : other.pushed = s.pushed)
    (hitems : ∀ lane, (other.unit.itemsOf lane).Sublist (s.unit.itemsOf lane))
    (hhand : ∀ item ∈ other.control.inHand, item ∈ s.control.inHand)
    (hreading : ∀ lane, other.control = .getIndex lane → other.unit.itemsOf lane ≠ [])
    (herasing : ∀ lane cur, other.control ≠ .eraseBegin lane cur) : other.Tracks where
  ordered := hordered
  mem_pushed lane item hitem := by
    rw [hpushed]
    exact h.mem_pushed lane item ((hitems lane).subset hitem)
  lane_nodup lane := (h.lane_nodup lane).sublist (hitems lane)
  hand_pushed item hitem := by
    rw [hpushed]
    exact h.hand_pushed item (hhand item hitem)
  reading := hreading
  erasing lane cur hcontrol := absurd hcontrol (herasing lane cur)

variable [Inhabited I]

/-- A step of the task keeps track. -/
theorem Tracks.task (h : s.Tracks) : s.task.1.Tracks := by
  have hordered := h.ordered.task
  rcases s.task_cases with ⟨unit, control, htask, hitems, -, -, hnext, hreading⟩ |
    ⟨lane, hcontrol, htask⟩ | ⟨lane, cur, hcontrol, htask⟩ | ⟨lane, cur, hcontrol, htask⟩
  · rw [htask] at hordered ⊢
    refine h.congr hordered rfl ?_ ?_ ?_ ?_
    · intro lane
      rw [hitems lane]
    · intro item hitem
      rw [hnext] at hitem
      cases hitem
    · intro lane heq
      rw [hitems lane]
      exact hreading lane heq
    · intro lane cur heq
      rw [show control = _ from heq] at hnext
      cases hnext
  · have hnonempty := h.reading lane hcontrol
    obtain ⟨first, others, hitems⟩ := List.exists_cons_of_ne_nil hnonempty
    rw [hitems, List.head?_cons, Option.getD_some] at htask
    rw [htask] at hordered ⊢
    refine ⟨hordered, h.mem_pushed, h.lane_nodup, ?_, ?_, ?_⟩
    · intro item hitem
      obtain rfl := List.mem_singleton.mp hitem
      exact h.mem_pushed lane item (by rw [hitems]; simp)
    · intro i heq
      cases heq
    · intro i cur heq
      cases heq
      show (s.unit.itemsOf lane).head? = some first
      rw [hitems]
      rfl
  · rw [htask] at hordered ⊢
    refine h.congr hordered rfl ?_ ?_ ?_ ?_
    · intro i
      rw [itemsOf_eraseBeginI]
      split
      · exact List.tail_sublist _
      · exact List.Sublist.refl _
    · intro item hitem
      rw [hcontrol]
      exact hitem
    · intro i heq
      cases heq
    · intro i other heq
      cases heq
  · rw [htask] at hordered ⊢
    refine h.congr hordered rfl (fun _ => List.Sublist.refl _) ?_ ?_ ?_
    · intro item hitem
      cases hitem
    · intro i heq
      cases heq
    · intro i other heq
      cases heq

omit [Inhabited I] in
/-- So does a pop, which leaves the lanes and the task. -/
theorem Tracks.popO (h : s.Tracks) : s.popO.Tracks := by
  have hordered := h.ordered.popO
  unfold Transmission.popO at hordered ⊢
  split at hordered
  · exact h
  · exact ⟨hordered, h.mem_pushed, h.lane_nodup, h.hand_pushed, h.reading, h.erasing⟩

/-- Every step keeps track. -/
theorem Tracks.step (h : s.Tracks) (input : Input I) : (s.step input).1.Tracks := by
  cases input with
  | pushI frame lane => exact h.pushI frame lane
  | task => exact h.task
  | popO => exact h.popO

/-- Only `eraseBegin` erases. -/
theorem task_output (h : ∀ lane cur, s.control ≠ .eraseBegin lane cur) :
    s.task.2 = none ∧ s.Undisturbed .task := by
  constructor
  · rcases s.task_cases with ⟨unit, control, htask, -⟩ | ⟨lane, -, htask⟩ |
      ⟨lane, cur, hcontrol, -⟩ | ⟨lane, cur, -, htask⟩
    · rw [htask]
    · rw [htask]
    · exact absurd hcontrol (h lane cur)
    · rw [htask]
  · cases hcontrol : s.control with
    | eraseBegin lane cur => exact absurd hcontrol (h lane cur)
    | idle | test | getIndex | pushO => simp only [Undisturbed, hcontrol]

/-- An erasure removes the item in hand if and only if no push has come in between at capacity. -/
theorem Tracks.erasesHand_iff (h : s.Tracks) (input : Input I) :
    ErasesHand (s.step input).2 ↔ s.Undisturbed input := by
  have hnone : ErasesHand (none : Option (Option (Sourced I) × Sourced I)) := by
    intro removed cur heq
    cases heq
  cases input with
  | pushI frame lane => exact ⟨fun _ => trivial, fun _ => hnone⟩
  | popO => exact ⟨fun _ => trivial, fun _ => hnone⟩
  | task =>
      by_cases hcontrol : ∃ lane cur, s.control = .eraseBegin lane cur
      · obtain ⟨lane, cur, hcontrol⟩ := hcontrol
        have herasing := h.erasing lane cur hcontrol
        have hundisturbed : s.Undisturbed .task ↔ s.disturbed = false := by
          simp only [Undisturbed, hcontrol]
        have houtput : (s.step .task).2 = some ((s.unit.itemsOf lane).head?, cur) := by
          simp only [Transmission.step, Transmission.task, hcontrol]
        rw [hundisturbed, houtput]
        cases hdisturbed : s.disturbed with
        | false =>
            rw [hdisturbed] at herasing
            constructor
            · intro _
              rfl
            · intro _ removed other heq
              cases heq
              exact herasing
        | true =>
            rw [hdisturbed] at herasing
            constructor
            · intro herases
              have hhead := herases _ _ rfl
              exact absurd (List.mem_of_head? hhead) herasing.2
            · intro heq
              cases heq
      · obtain ⟨houtput, hundisturbed⟩ := task_output fun lane cur heq => hcontrol ⟨lane, cur, heq⟩
        have hstep : (s.step .task).2 = none := houtput
        rw [hstep]
        exact ⟨fun _ => hundisturbed, fun _ => hnone⟩

/-! ## What is accounted for -/

omit [Inhabited I] in
/-- A push accounts for its item and for the one that it drops. -/
theorem Accounted.pushI (h : s.Accounted) (frame : I) (lane : Nat) :
    (s.pushI frame lane).Accounted := by
  cases hqueue : s.unit.iQueueVector[lane]? with
  | none =>
      rw [pushI_none frame hqueue]
      exact h
  | some queue =>
      have hpushed := pushed_pushI frame hqueue
      set item : Sourced I := ⟨some lane, s.pushed.length, frame⟩ with hitem
      have hcontrol := control_pushI s frame lane
      have hhanded : (s.pushI frame lane).handed = s.handed := by
        simp only [Transmission.pushI, hqueue]
      have hevicted : (s.pushI frame lane).evicted =
          s.evicted ++ if queue.Full then (queue.q ++ [item]).take 1 else [] := by
        simp only [Transmission.pushI, hqueue, hitem]
      have hlane : ∀ x ∈ queue.q ++ [item],
          x ∈ (s.pushI frame lane).unit.itemsOf lane ∨ x ∈ (s.pushI frame lane).evicted := by
        intro x hx
        rw [itemsOf_pushI frame hqueue, if_pos rfl, hevicted]
        rcases Vector.mem_push_or hx with hkept | ⟨hfull, hdropped⟩
        · exact .inl hkept
        · rw [if_pos hfull]
          exact .inr (List.mem_append_right _ hdropped)
      have hinlane : ∀ x ∈ queue.q ++ [item],
          (∃ i, x ∈ (s.pushI frame lane).unit.itemsOf i) ∨ x ∈ s.control.inHand ∨
            x ∈ s.handed ∨ x ∈ (s.pushI frame lane).evicted := by
        intro x hx
        rcases hlane x hx with hkept | hdropped
        · exact .inl ⟨lane, hkept⟩
        · exact .inr (.inr (.inr hdropped))
      intro x hx
      rw [hcontrol, hhanded]
      rw [hpushed] at hx
      rcases List.mem_append.mp hx with hold | hnew
      · rcases h x hold with ⟨i, hi⟩ | hhand | hhanded | hdropped
        · by_cases heq : lane = i
          · subst heq
            rw [itemsOf_eq hqueue] at hi
            exact hinlane x (List.mem_append_left _ hi)
          · refine .inl ⟨i, ?_⟩
            rw [itemsOf_pushI frame hqueue, if_neg heq]
            exact hi
        · exact .inr (.inl hhand)
        · exact .inr (.inr (.inl hhanded))
        · refine .inr (.inr (.inr ?_))
          rw [hevicted]
          exact List.mem_append_left _ hdropped
      · exact hinlane x (List.mem_append_right _ hnew)

omit [Inhabited I] in
/-- A step that drops nothing from the lanes and from the hand keeps all items accounted for. -/
theorem Accounted.congr {other : Transmission I} (h : s.Accounted)
    (hpushed : other.pushed = s.pushed)
    (hitems : ∀ lane, ∀ item ∈ s.unit.itemsOf lane,
      item ∈ other.unit.itemsOf lane ∨ item ∈ other.control.inHand)
    (hhand : ∀ item ∈ s.control.inHand, item ∈ other.control.inHand ∨ item ∈ other.handed)
    (hhanded : ∀ item ∈ s.handed, item ∈ other.handed) (hevicted : other.evicted = s.evicted) :
    other.Accounted := by
  intro item hitem
  rw [hpushed] at hitem
  rw [hevicted]
  rcases h item hitem with ⟨lane, hlane⟩ | hcur | hdone | hdropped
  · rcases hitems lane item hlane with hkept | htaken
    · exact .inl ⟨lane, hkept⟩
    · exact .inr (.inl htaken)
  · rcases hhand item hcur with hkept | hgiven
    · exact .inr (.inl hkept)
    · exact .inr (.inr (.inl hgiven))
  · exact .inr (.inr (.inl (hhanded item hdone)))
  · exact .inr (.inr (.inr hdropped))

/-- An undisturbed step of the task takes from a lane only the item that it has in hand. -/
theorem Accounted.task (h : s.Accounted) (htracks : s.Tracks) (hok : s.Undisturbed .task) :
    s.task.1.Accounted := by
  rcases s.task_cases with ⟨unit, control, htask, hitems, -, hhand, -, -⟩ |
    ⟨lane, hcontrol, htask⟩ | ⟨lane, cur, hcontrol, htask⟩ | ⟨lane, cur, hcontrol, htask⟩
  · rw [htask]
    refine h.congr rfl ?_ ?_ (fun _ hitem => hitem) rfl
    · intro lane item hitem
      rw [← hitems lane] at hitem
      exact .inl hitem
    · intro item hitem
      rw [hhand] at hitem
      cases hitem
  · rw [htask]
    refine h.congr rfl (fun _ _ hitem => .inl hitem) ?_ (fun _ hitem => hitem) rfl
    intro item hitem
    rw [hcontrol] at hitem
    cases hitem
  · have hundisturbed : s.disturbed = false := by
      simpa only [Undisturbed, hcontrol] using hok
    have hfirst := htracks.erasing lane cur hcontrol
    rw [hundisturbed] at hfirst
    have hhead : (s.unit.itemsOf lane).head? = some cur := hfirst
    obtain ⟨others, hitems⟩ := List.head?_eq_some_iff.mp hhead
    rw [htask]
    -- what leaves the lane is the item in hand
    refine h.congr rfl ?_ ?_ (fun _ hitem => hitem) rfl
    · intro i item hitem
      rw [itemsOf_eraseBeginI]
      split
      · next heq =>
          rw [← heq, hitems] at hitem ⊢
          rcases List.mem_cons.mp hitem with hcur | hothers
          · exact .inr (List.mem_singleton.mpr hcur)
          · exact .inl hothers
      · exact .inl hitem
    · intro item hitem
      rw [hcontrol] at hitem
      exact .inl hitem
  · rw [htask]
    refine h.congr rfl (fun _ _ hitem => .inl hitem) ?_ ?_ rfl
    · intro item hitem
      rw [hcontrol] at hitem
      exact .inr (List.mem_append_right _ hitem)
    · intro item hitem
      exact List.mem_append_left _ hitem

omit [Inhabited I] in
/-- A pop leaves the lanes and the hand. -/
theorem Accounted.popO (h : s.Accounted) : s.popO.Accounted := by
  unfold Transmission.popO
  split
  · exact h
  · exact h

/-- An undisturbed step keeps all items accounted for. -/
theorem Accounted.step (h : s.Accounted) (htracks : s.Tracks) {input : Input I}
    (hok : s.Undisturbed input) : (s.step input).1.Accounted := by
  cases input with
  | pushI frame lane => exact h.pushI frame lane
  | task => exact h.task htracks hok
  | popO => exact h.popO

/-- A unit behind its initialisation is on track. -/
theorem tracks_start (c : Nat) (fs : Int32) (i_num : Nat) (cache : Int) (intervalTask : Int32) :
    (start (I := I) c fs i_num cache intervalTask).Tracks := by
  have hempty := itemsOf_start (I := I) c fs i_num cache intervalTask
  constructor
  case ordered => exact ordered_start c fs i_num cache intervalTask
  case mem_pushed =>
    intro lane item hitem
    rw [hempty] at hitem
    cases hitem
  case lane_nodup =>
    intro lane
    rw [hempty]
    exact List.nodup_nil
  case hand_pushed =>
    intro item hitem
    cases hitem
  case reading =>
    intro lane heq
    cases heq
  case erasing =>
    intro lane cur heq
    cases heq

/-- A run loses nothing silently if and only if no push comes to a full lane between `getIndex` and
`eraseBegin`. -/
theorem lossless_iff (c : Nat) (fs : Int32) (i_num : Nat) (cache : Int) (intervalTask : Int32)
    (inputs : List (Input I)) :
    Lossless (start c fs i_num cache intervalTask) inputs ↔
      Allowed step Undisturbed (start c fs i_num cache intervalTask) inputs := by
  have htracks := tracks_start (I := I) c fs i_num cache intervalTask
  have haccounted : (start (I := I) c fs i_num cache intervalTask).Accounted := by
    intro item hitem
    cases hitem
  have hiff := forall_outputs_iff Tracks (fun s a hs => hs.step a)
    (fun s a hs => hs.erasesHand_iff a) htracks inputs
  constructor
  · intro h
    exact hiff.mp h.1
  · intro hok
    have halways : Always step (fun s => s.Tracks ∧ s.Accounted) _ inputs :=
      always_of_allowed
        (fun s a hs hundisturbed => ⟨hs.1.step a, hs.2.step hs.1 hundisturbed⟩)
        ⟨htracks, haccounted⟩ hok
    exact ⟨hiff.mpr hok, halways.mono fun _ hs => hs.2⟩

/-- One lane of one item: a push between `getIndex` and `eraseBegin` is erased unread. -/
theorem not_lossless_full_lane :
    ¬ Lossless (start 1 500 1 1 10)
      [.pushI () 0, .task, .task, .task, .pushI () 0, .task] := by
  intro h
  have herases := h.1 (some (some ⟨some 0, 1, ()⟩, ⟨some 0, 0, ()⟩)) (by decide)
  have hsame := herases _ _ rfl
  exact absurd hsame (by decide)

end RVDataFusionServer.Transmission
