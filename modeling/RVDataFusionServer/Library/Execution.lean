import Mathlib.Data.List.Basic
import Mathlib.Logic.Function.Iterate

/-!
# Runs of deterministic machines

A machine is a function `step : σ → α → σ × ε` from a state and an input to the next state and
an output. `final` and `outputs` run it over a list of inputs, and `Allowed` says that every
input of a run meets a condition in the state it is given to. Read `final_invariant` first: an
invariant of the allowed steps holds after every allowed run.
-/

namespace Library.Execution

variable {σ τ α β ε δ : Type*}

/-- The state in which the machine is left by a list of inputs. -/
def final (step : σ → α → σ × ε) : σ → List α → σ
  | state, [] => state
  | state, input :: rest => final step (step state input).1 rest

/-- The outputs of a run, one for each input. -/
def outputs (step : σ → α → σ × ε) : σ → List α → List ε
  | _, [] => []
  | state, input :: rest => (step state input).2 :: outputs step (step state input).1 rest

/-- What a machine whose outputs are lists emits in a run. -/
def emitted (step : σ → α → σ × List δ) (state : σ) (inputs : List α) : List δ :=
  (outputs step state inputs).flatten

/-- Every input of a run satisfies `ok` in the state that receives it. -/
def Allowed (step : σ → α → σ × ε) (ok : σ → α → Prop) : σ → List α → Prop
  | _, [] => True
  | state, input :: rest => ok state input ∧ Allowed step ok (step state input).1 rest

/-- Every state of a run, the first one included, is safe. -/
def Always (step : σ → α → σ × ε) (safe : σ → Prop) : σ → List α → Prop
  | state, [] => safe state
  | state, input :: rest => safe state ∧ Always step safe (step state input).1 rest

variable {step : σ → α → σ × ε}

/-- `Allowed` is decided by running the machine. -/
instance decidableAllowed {ok : σ → α → Prop} [∀ state input, Decidable (ok state input)] :
    ∀ (state : σ) (inputs : List α), Decidable (Allowed step ok state inputs)
  | _, [] => .isTrue trivial
  | state, input :: rest =>
      have : Decidable (Allowed step ok (step state input).1 rest) := decidableAllowed _ rest
      inferInstanceAs (Decidable (_ ∧ _))

@[simp] theorem final_nil (state : σ) : final step state [] = state := rfl

@[simp] theorem final_cons (state : σ) (input : α) (rest : List α) :
    final step state (input :: rest) = final step (step state input).1 rest := rfl

@[simp] theorem outputs_nil (state : σ) : outputs step state [] = [] := rfl

@[simp] theorem outputs_cons (state : σ) (input : α) (rest : List α) :
    outputs step state (input :: rest) =
      (step state input).2 :: outputs step (step state input).1 rest := rfl

@[simp] theorem allowed_nil {ok : σ → α → Prop} (state : σ) : Allowed step ok state [] := trivial

@[simp] theorem allowed_cons {ok : σ → α → Prop} (state : σ) (input : α) (rest : List α) :
    Allowed step ok state (input :: rest) ↔
      ok state input ∧ Allowed step ok (step state input).1 rest := Iff.rfl

/-- A run may be cut anywhere. -/
theorem final_append (state : σ) (first second : List α) :
    final step state (first ++ second) = final step (final step state first) second := by
  induction first generalizing state with
  | nil => rfl
  | cons input rest ih => exact ih (step state input).1

/-- The outputs of a cut run are those of its two parts. -/
theorem outputs_append (state : σ) (first second : List α) :
    outputs step state (first ++ second) =
      outputs step state first ++ outputs step (final step state first) second := by
  induction first generalizing state with
  | nil => rfl
  | cons input rest ih => simp [ih]

/-- Where the outputs of a run are cut, the run can be cut. -/
theorem exists_of_outputs_eq_append {state : σ} {inputs : List α} {first rest : List ε}
    {output : ε} (h : outputs step state inputs = first ++ output :: rest) :
    ∃ before input after, inputs = before ++ input :: after ∧
      outputs step state before = first ∧ (step (final step state before) input).2 = output ∧
      outputs step (step (final step state before) input).1 after = rest := by
  induction first generalizing state inputs with
  | nil =>
      cases inputs with
      | nil => simp at h
      | cons input after =>
          obtain ⟨houtput, hrest⟩ := List.cons.inj h
          exact ⟨[], input, after, rfl, rfl, houtput, hrest⟩
  | cons head first ih =>
      cases inputs with
      | nil => simp at h
      | cons input inputs =>
          obtain ⟨hhead, htail⟩ := List.cons.inj h
          obtain ⟨before, cut, after, rfl, hbefore, houtput, hrest⟩ := ih htail
          exact ⟨input :: before, cut, after, rfl, by rw [outputs_cons, hhead, hbefore], houtput,
            hrest⟩

@[simp] theorem emitted_nil (step : σ → α → σ × List δ) (state : σ) :
    emitted step state [] = [] := rfl

@[simp] theorem emitted_cons (step : σ → α → σ × List δ) (state : σ) (input : α)
    (rest : List α) :
    emitted step state (input :: rest) =
      (step state input).2 ++ emitted step (step state input).1 rest := rfl

/-- A cut run emits what its two parts emit. -/
theorem emitted_append (step : σ → α → σ × List δ) (state : σ) (first second : List α) :
    emitted step state (first ++ second) =
      emitted step state first ++ emitted step (final step state first) second := by
  simp only [emitted, outputs_append, List.flatten_append]

/-- A cut run is allowed when both of its parts are. -/
theorem allowed_append {ok : σ → α → Prop} (state : σ) (first second : List α) :
    Allowed step ok state (first ++ second) ↔
      Allowed step ok state first ∧ Allowed step ok (final step state first) second := by
  induction first generalizing state with
  | nil => simp
  | cons input rest ih => simp [ih, and_assoc]

@[simp] theorem length_outputs (state : σ) (inputs : List α) :
    (outputs step state inputs).length = inputs.length := by
  induction inputs generalizing state with
  | nil => rfl
  | cons input rest ih => simp [ih]

/-- A condition every input meets in every state allows every run. -/
theorem allowed_of_forall {ok : σ → α → Prop} (state : σ) (inputs : List α)
    (h : ∀ s, ∀ a ∈ inputs, ok s a) : Allowed step ok state inputs := by
  induction inputs generalizing state with
  | nil => trivial
  | cons input rest ih =>
      exact ⟨h _ _ (by simp), ih _ (fun s a ha => h s a (by simp [ha]))⟩

/-- A run that meets two conditions meets both of them at once. -/
theorem Allowed.and {p q : σ → α → Prop} {state : σ} {inputs : List α}
    (hp : Allowed step p state inputs) (hq : Allowed step q state inputs) :
    Allowed step (fun s a => p s a ∧ q s a) state inputs := by
  induction inputs generalizing state with
  | nil => trivial
  | cons input rest ih => exact ⟨⟨hp.1, hq.1⟩, ih hp.2 hq.2⟩

/-- The invariant rule: what every allowed step preserves, every allowed run preserves. -/
theorem final_invariant {inv : σ → Prop} (ok : σ → α → Prop)
    (hstep : ∀ s a, inv s → ok s a → inv (step s a).1) {state : σ} {inputs : List α}
    (hstart : inv state) (hok : Allowed step ok state inputs) :
    inv (final step state inputs) := by
  induction inputs generalizing state with
  | nil => exact hstart
  | cons input rest ih => exact ih (hstep _ _ hstart hok.1) hok.2

/-- The history rule: what every allowed step preserves of a state and of what has happened so far,
every allowed run preserves. -/
theorem final_of_history {fits : σ → List α → List ε → Prop} (ok : σ → α → Prop)
    (hstep : ∀ s past es a, fits s past es → ok s a →
      fits (step s a).1 (past ++ [a]) (es ++ [(step s a).2])) {state : σ} {past : List α}
    {es : List ε} (hstart : fits state past es) {inputs : List α}
    (hok : Allowed step ok state inputs) :
    fits (final step state inputs) (past ++ inputs) (es ++ outputs step state inputs) := by
  induction inputs generalizing state past es with
  | nil =>
      rw [List.append_nil, outputs_nil, List.append_nil]
      exact hstart
  | cons input rest ih =>
      have hrest := ih (hstep _ _ _ _ hstart hok.1) hok.2
      rw [List.append_assoc, List.append_assoc] at hrest
      exact hrest

/-- If all steps preserve an invariant, and from its states the outputs that satisfy `post` are
exactly those of the allowed steps, then so they are for runs. -/
theorem forall_outputs_iff (inv : σ → Prop) {ok : σ → α → Prop} {post : ε → Prop}
    (hinv : ∀ s a, inv s → inv (step s a).1)
    (hstep : ∀ s a, inv s → (post (step s a).2 ↔ ok s a)) {state : σ} (hstart : inv state)
    (inputs : List α) :
    (∀ output ∈ outputs step state inputs, post output) ↔ Allowed step ok state inputs := by
  induction inputs generalizing state with
  | nil => simp
  | cons input rest ih => simp [ih (hinv _ input hstart), hstep _ input hstart]

/-- The output rule: if the allowed steps from the states of an invariant keep it and have outputs
that satisfy `post`, then so do allowed runs. -/
theorem forall_outputs_of_allowed {inv : σ → Prop} {ok : σ → α → Prop} {post : ε → Prop}
    (hstep : ∀ s a, inv s → ok s a → inv (step s a).1 ∧ post (step s a).2) {state : σ}
    {inputs : List α} (hstart : inv state) (hok : Allowed step ok state inputs) :
    ∀ output ∈ outputs step state inputs, post output := by
  induction inputs generalizing state with
  | nil => simp
  | cons input rest ih =>
      obtain ⟨hinv, hpost⟩ := hstep _ _ hstart hok.1
      exact List.forall_mem_cons.mpr ⟨hpost, ih hinv hok.2⟩

/-- The same for a machine whose outputs are lists, and what all that it emits satisfies. -/
theorem forall_emitted_iff {step : σ → α → σ × List δ} (inv : σ → Prop) {ok : σ → α → Prop}
    {post : δ → Prop} (hinv : ∀ s a, inv s → inv (step s a).1)
    (hstep : ∀ s a, inv s → ((∀ x ∈ (step s a).2, post x) ↔ ok s a)) {state : σ}
    (hstart : inv state) (inputs : List α) :
    (∀ x ∈ emitted step state inputs, post x) ↔ Allowed step ok state inputs := by
  have hiff : (∀ output ∈ outputs step state inputs, ∀ x ∈ output, post x) ↔
      Allowed step ok state inputs := forall_outputs_iff inv hinv hstep hstart inputs
  rw [← hiff]
  show (∀ x ∈ (outputs step state inputs).flatten, post x) ↔ _
  simp only [List.mem_flatten]
  constructor
  · intro h output houtput x hx
    exact h x ⟨output, houtput, hx⟩
  · rintro h x ⟨output, houtput, hx⟩
    exact h output houtput x hx

/-- The same inside a domain: if the steps of the domain preserve an invariant, and from its states
their outputs satisfy `post` exactly if they are allowed, then so it is for runs in the domain. -/
theorem forall_outputs_iff_of_allowed (inv : σ → Prop) {dom ok : σ → α → Prop} {post : ε → Prop}
    (hinv : ∀ s a, inv s → dom s a → inv (step s a).1)
    (hstep : ∀ s a, inv s → dom s a → (post (step s a).2 ↔ ok s a)) {state : σ}
    (hstart : inv state) {inputs : List α} (hdom : Allowed step dom state inputs) :
    (∀ output ∈ outputs step state inputs, post output) ↔ Allowed step ok state inputs := by
  induction inputs generalizing state with
  | nil => simp
  | cons input rest ih =>
      obtain ⟨hfirst, hrest⟩ := hdom
      simp [ih (hinv _ _ hstart hfirst) hrest, hstep _ _ hstart hfirst]

/-- A run that is always safe is so after every number of steps. -/
theorem always_iff {safe : σ → Prop} (state : σ) (inputs : List α) :
    Always step safe state inputs ↔ ∀ n, safe (final step state (inputs.take n)) := by
  induction inputs generalizing state with
  | nil => simp [Always]
  | cons input rest ih =>
      refine ⟨fun h n => ?_, fun h => ⟨h 0, (ih _).mpr fun n => h (n + 1)⟩⟩
      cases n with
      | zero => exact h.1
      | succ n => exact (ih _).mp h.2 n

/-- An invariant of the allowed steps holds in every state of an allowed run. -/
theorem always_of_allowed {inv : σ → Prop} {ok : σ → α → Prop}
    (hstep : ∀ s a, inv s → ok s a → inv (step s a).1) {state : σ} {inputs : List α}
    (hstart : inv state) (hok : Allowed step ok state inputs) : Always step inv state inputs := by
  induction inputs generalizing state with
  | nil => exact hstart
  | cons input rest ih => exact ⟨hstart, ih (hstep _ _ hstart hok.1) hok.2⟩

/-- What follows from a safe state is safe all along. -/
theorem Always.mono {safe weaker : σ → Prop} {state : σ} {inputs : List α}
    (h : Always step safe state inputs) (hmono : ∀ s, safe s → weaker s) :
    Always step weaker state inputs := by
  induction inputs generalizing state with
  | nil => exact hmono _ h
  | cons input rest ih => exact ⟨hmono _ h.1, ih h.2⟩

/-- The safety rule: an invariant of the allowed steps that gives safety makes allowed runs always
safe. If from its states the other steps all lead to unsafe ones, only allowed runs are. All this is
said of the runs in a domain. -/
theorem always_iff_allowed_of_domain (inv : σ → Prop) {safe : σ → Prop} {dom ok : σ → α → Prop}
    (hsafe : ∀ s, inv s → safe s) (hstep : ∀ s a, inv s → dom s a → ok s a → inv (step s a).1)
    (hbreak : ∀ s a, inv s → dom s a → ¬ ok s a → ¬ safe (step s a).1) {state : σ}
    (hstart : inv state) {inputs : List α} (hdom : Allowed step dom state inputs) :
    Always step safe state inputs ↔ Allowed step ok state inputs := by
  induction inputs generalizing state with
  | nil => exact ⟨fun _ => trivial, fun _ => hsafe _ hstart⟩
  | cons input rest ih =>
      by_cases hok : ok state input
      · simp only [Always, allowed_cons, hok, hsafe _ hstart, true_and]
        exact ih (hstep _ _ hstart hdom.1 hok) hdom.2
      · refine ⟨fun h => absurd ((always_iff _ _).mp h.2 0) (hbreak _ _ hstart hdom.1 hok),
          fun h => ?_⟩
        exact absurd h.1 hok

/-- The safety rule for all runs. -/
theorem always_iff_allowed (inv : σ → Prop) {safe : σ → Prop} {ok : σ → α → Prop}
    (hsafe : ∀ s, inv s → safe s) (hstep : ∀ s a, inv s → ok s a → inv (step s a).1)
    (hbreak : ∀ s a, inv s → ¬ ok s a → ¬ safe (step s a).1) {state : σ} (hstart : inv state)
    (inputs : List α) : Always step safe state inputs ↔ Allowed step ok state inputs := by
  have hdom : Allowed step (fun _ _ => True) state inputs :=
    allowed_of_forall _ _ fun _ _ _ => trivial
  exact always_iff_allowed_of_domain inv hsafe (fun s a hinv _ => hstep s a hinv)
    (fun s a hinv _ => hbreak s a hinv) hstart hdom

/-- The progress rule: if every step that misses the goal is paid for out of a budget, the goal is
met after at most as many steps. -/
theorem exists_iterate_of_budget {next : σ → σ} {goal : σ → Prop} (inv : Nat → σ → Prop)
    (hstep : ∀ budget s, inv budget s → ¬ goal s → ∃ rest, budget = rest + 1 ∧ inv rest (next s))
    {budget : Nat} {state : σ} (hstart : inv budget state) :
    ∃ n ≤ budget, goal (next^[n] state) := by
  induction budget generalizing state with
  | zero =>
      refine ⟨0, Nat.le_refl 0, ?_⟩
      by_contra hmiss
      obtain ⟨rest, hrest, -⟩ := hstep 0 state hstart hmiss
      omega
  | succ budget ih =>
      by_cases hgoal : goal state
      · exact ⟨0, Nat.zero_le _, hgoal⟩
      · obtain ⟨rest, hrest, hinv⟩ := hstep _ state hstart hgoal
        obtain rfl : budget = rest := Nat.succ.inj hrest
        obtain ⟨n, hn, hmet⟩ := ih hinv
        refine ⟨n + 1, Nat.succ_le_succ hn, ?_⟩
        rw [Function.iterate_succ_apply]
        exact hmet

/-- A run of a machine whose steps can fail: the last state and the outputs, unless one has. -/
def tryRun {φ : Type*} (step : σ → α → Except φ (σ × ε)) : σ → List α → Except φ (σ × List ε)
  | state, [] => .ok (state, [])
  | state, input :: rest =>
      match step state input with
      | .error failure => .error failure
      | .ok (next, output) =>
          match tryRun step next rest with
          | .error failure => .error failure
          | .ok (last, outputs) => .ok (last, output :: outputs)

/-- The simulation rule: if from related states a step that can fail does not, answers like the
step that cannot, and leads to related states again, then so does every run. -/
theorem tryRun_of_simulation {φ : Type*} {concrete : σ → α → Except φ (σ × ε)}
    {spec : τ → α → τ × ε} {rel : σ → τ → Prop}
    (hstep : ∀ s t a, rel s t →
      ∃ s', concrete s a = .ok (s', (spec t a).2) ∧ rel s' (spec t a).1)
    {start : σ} {abstract : τ} (hstart : rel start abstract) (inputs : List α) :
    ∃ last, tryRun concrete start inputs = .ok (last, outputs spec abstract inputs) ∧
      rel last (final spec abstract inputs) := by
  induction inputs generalizing start abstract with
  | nil => exact ⟨start, rfl, hstart⟩
  | cons input rest ih =>
      obtain ⟨next, hnext, hrel⟩ := hstep start abstract input hstart
      obtain ⟨last, hlast, hfinal⟩ := ih hrel
      refine ⟨last, ?_, hfinal⟩
      simp [tryRun, hnext, hlast]

/-- The history rule of machines that can fail: if from every state that fits the outputs so far a
step that can fail does not, and its state fits the outputs with its own, then so does every run. -/
theorem tryRun_of_history {φ : Type*} {concrete : σ → α → Except φ (σ × ε)}
    {fits : σ → List ε → Prop}
    (hstep : ∀ s past a, fits s past →
      ∃ s' e, concrete s a = .ok (s', e) ∧ fits s' (past ++ [e]))
    {start : σ} {past : List ε} (hstart : fits start past) (inputs : List α) :
    ∃ last es, tryRun concrete start inputs = .ok (last, es) ∧ fits last (past ++ es) := by
  induction inputs generalizing start past with
  | nil => exact ⟨start, [], rfl, by rwa [List.append_nil]⟩
  | cons input rest ih =>
      obtain ⟨next, e, hnext, hfits⟩ := hstep start past input hstart
      obtain ⟨last, es, hlast, hfinal⟩ := ih hfits
      rw [List.append_assoc] at hfinal
      refine ⟨last, e :: es, ?_, hfinal⟩
      simp [tryRun, hnext, hlast]

/-- The refinement rule: if the steps of a machine are those of another one, seen through a
projection of the states and a reading of the outputs, then so are its runs. -/
theorem final_outputs_of_projection {concrete : σ → α → σ × ε} {spec : τ → α → τ × δ}
    (abs : σ → τ) (read : δ → ε)
    (hstep : ∀ s a, abs (concrete s a).1 = (spec (abs s) a).1 ∧
      (concrete s a).2 = read (spec (abs s) a).2) (state : σ) (inputs : List α) :
    abs (final concrete state inputs) = final spec (abs state) inputs ∧
      outputs concrete state inputs = (outputs spec (abs state) inputs).map read := by
  induction inputs generalizing state with
  | nil => exact ⟨rfl, rfl⟩
  | cons input rest ih =>
      obtain ⟨hnext, houtput⟩ := hstep state input
      obtain ⟨hfinal, houtputs⟩ := ih (concrete state input).1
      rw [final_cons, final_cons, outputs_cons, outputs_cons, hfinal, houtputs, hnext, houtput]
      exact ⟨rfl, rfl⟩

/-- The potential rule: if every output that is counted costs one unit of a potential that no
allowed step raises, then an allowed run has at most as many of them as the potential allows. -/
theorem countP_outputs_le {inv : σ → Prop} {ok : σ → α → Prop} {counted : ε → Bool}
    {potential : σ → Nat} (hinv : ∀ s a, inv s → ok s a → inv (step s a).1)
    (hstep : ∀ s a, inv s → ok s a →
      potential (step s a).1 + (if counted (step s a).2 then 1 else 0) ≤ potential s) {state : σ}
    {inputs : List α} (hstart : inv state) (hok : Allowed step ok state inputs) :
    (outputs step state inputs).countP counted ≤ potential state := by
  induction inputs generalizing state with
  | nil => simp
  | cons input rest ih =>
      have hone := hstep state input hstart hok.1
      have hrest := ih (hinv _ _ hstart hok.1) hok.2
      rw [outputs_cons, List.countP_cons]
      omega

/-- The counting rule: if a step raises a measure by one at most, and only for an input that is
counted, then a run raises it by as much as there are such inputs at most. -/
theorem measure_final_le {counted : α → Bool} {measure : σ → Nat}
    (hstep : ∀ s a, measure (step s a).1 ≤ measure s + if counted a then 1 else 0) (state : σ)
    (inputs : List α) :
    measure (final step state inputs) ≤ measure state + inputs.countP counted := by
  induction inputs generalizing state with
  | nil => exact Nat.le_add_right _ _
  | cons input rest ih =>
      have hone := hstep state input
      have hrest := ih (step state input).1
      rw [final_cons, List.countP_cons]
      omega

end Library.Execution
