import RVDataFusionServer.EocCom.ProcessR106

/-!
# The results of the downloads

The download step of `intervalPro` (`EOCCom.cpp`) walks over the list of downloads, writes a
result for every device of an entry that is not idle, and erases the entry. A `Write` that fails
leaves the loop over the devices, and the entry is erased all the same: `keepsUnreported_iff` says
for which lists and which results of `Write` nothing is lost.
-/

namespace RVDataFusionServer

/-- The `switch` over the status of a download, on a new `S106`. -/
def S106.ofStatus (status : EocDownloadStatus) (commGuid : String) : S106 :=
  match status with
  | .finished => S106.md5success commGuid
  | .fileNotExist => S106.get comVersion commGuid 2 0 0 "下载文件不存在"
  | .timeout => S106.get comVersion commGuid 2 0 0 "下载超时"
  | .spaceNotEnough => S106.get comVersion commGuid 2 0 0 "本地剩余空间不足"
  | .md5Faild => S106.get comVersion commGuid 2 0 0 "MD5校验失败"
  | .idle | .running | .watiUpgrade => {}

/-- The statuses that a download thread leaves when it is done. -/
def EocDownloadStatus.isResult : EocDownloadStatus → Bool
  | .finished | .fileNotExist | .timeout | .spaceNotEnough | .md5Faild => true
  | .idle | .running | .watiUpgrade => false

/-- What the download step works on: the flag of the connection, the messages that were written
with what `Write` returned, and the entries in front of the iterator. -/
structure DownloadStep where
  isLive : Bool
  sent : List (S106 × Int) := []
  kept : List EocDownloadsMsg := []

/-- The loop over the devices of an entry. The `n`-th call of `Write` returns `writes n`. -/
def reportDevs (writes : Nat → Int) (status : EocDownloadStatus) :
    List EocUpgradeDev → DownloadStep → DownloadStep
  | [], step => step
  | iter1 :: devs, step =>
      if iter1.devType = .parkingarea then
        let len := writes step.sent.length
        let step := { step with sent := step.sent ++ [(S106.ofStatus status iter1.commGuid, len)] }
        if len < 0 then { step with isLive := false } else reportDevs writes status devs step
      else reportDevs writes status devs step

namespace DownloadStep

/-- The body of the loop over the list. -/
def visit (writes : Nat → Int) (step : DownloadStep) (iter : EocDownloadsMsg) : DownloadStep :=
  if iter.downloadStatus ≠ .idle then
    -- `erase`: the entry does not join those in front of the iterator
    reportDevs writes iter.downloadStatus iter.upgradeDev step
  else { step with kept := step.kept ++ [iter] }

/-- The download step of `EOCCom::intervalPro`. -/
def run (writes : Nat → Int) (isLive : Bool) (downloadsMsg : List EocDownloadsMsg) :
    DownloadStep :=
  downloadsMsg.foldl (visit writes) { isLive }

/-- One round of the loop over the list: the entry, and what the round found and left. -/
structure Visit where
  msg : EocDownloadsMsg
  before : DownloadStep
  after : DownloadStep

/-- The rounds of the loop over the list. -/
def visits (writes : Nat → Int) : DownloadStep → List EocDownloadsMsg → List Visit
  | _, [] => []
  | step, iter :: rest =>
      ⟨iter, step, step.visit writes iter⟩ :: visits writes (step.visit writes iter) rest

/-- The round left its entry on the list. -/
def Visit.Keeps (round : Visit) : Prop := round.after.kept = round.before.kept ++ [round.msg]

instance decidableKeeps : DecidablePred Visit.Keeps := fun _ => inferInstanceAs (Decidable (_ = _))

/-- The messages that were written successfully. -/
def delivered (sent : List (S106 × Int)) : List S106 :=
  (sent.filter fun entry => 0 ≤ entry.2).map Prod.fst

/-- The messages that a round handed to `Write`. -/
def Visit.sent (round : Visit) : List (S106 × Int) :=
  round.after.sent.drop round.before.sent.length

/-- The results of the devices of an entry. -/
def results (msg : EocDownloadsMsg) : List S106 :=
  msg.upgradeDev.map fun dev => S106.ofStatus msg.downloadStatus dev.commGuid

/-- A round leaves its entry on the list, unless the download is done and the result of each of its
devices was written successfully. -/
def Visit.KeepsUnreported (round : Visit) : Prop :=
  round.Keeps ∨
    round.msg.downloadStatus.isResult = true ∧ (results round.msg).Sublist (delivered round.sent)

/-- The step leaves on the list what its rounds keep, and no round loses a result. -/
def KeepsUnreported (writes : Nat → Int) (isLive : Bool) (downloadsMsg : List EocDownloadsMsg) :
    Prop :=
  let rounds := visits writes { isLive } downloadsMsg
  (run writes isLive downloadsMsg).kept =
      (rounds.filter fun round => round.Keeps).map Visit.msg ∧
    ∀ round ∈ rounds, round.KeepsUnreported

/-- The number of devices whose results are due. -/
def due : List EocDownloadsMsg → Nat
  | [] => 0
  | msg :: rest => (if msg.downloadStatus = .idle then 0 else msg.upgradeDev.length) + due rest

/-- Every entry that is not idle is done, and its devices are main control boards. -/
def Reportable (downloadsMsg : List EocDownloadsMsg) : Prop :=
  ∀ msg ∈ downloadsMsg, msg.downloadStatus ≠ .idle →
    msg.downloadStatus.isResult = true ∧ ∀ dev ∈ msg.upgradeDev, dev.devType = .parkingarea

/-- The messages for some devices, when `count` messages were written before. -/
def reports (writes : Nat → Int) (status : EocDownloadStatus) :
    Nat → List EocUpgradeDev → List (S106 × Int)
  | _, [] => []
  | count, dev :: devs =>
      if dev.devType = .parkingarea then
        (S106.ofStatus status dev.commGuid, writes count) ::
          if writes count < 0 then [] else reports writes status (count + 1) devs
      else reports writes status count devs

variable {writes : Nat → Int} {step : DownloadStep} {status : EocDownloadStatus}

/-- The loop over the devices writes its messages and leaves the list alone. -/
theorem reportDevs_spec (devs : List EocUpgradeDev) (step : DownloadStep) :
    (reportDevs writes status devs step).sent =
        step.sent ++ reports writes status step.sent.length devs ∧
      (reportDevs writes status devs step).kept = step.kept := by
  induction devs generalizing step with
  | nil => exact ⟨(List.append_nil _).symm, rfl⟩
  | cons dev devs ih =>
      rw [reportDevs, reports]
      split
      · dsimp only
        split
        · exact ⟨rfl, rfl⟩
        · obtain ⟨hsent, hkept⟩ := ih { step with
            sent := step.sent ++ [(S106.ofStatus status dev.commGuid, writes step.sent.length)] }
          refine ⟨?_, hkept⟩
          rw [hsent, List.length_append, List.length_singleton, List.append_assoc]
          rfl
      · exact ih step

/-- A device of another type is passed over. -/
theorem reports_passed {dev : EocUpgradeDev} (h : dev.devType ≠ .parkingarea) (count : Nat)
    (devs : List EocUpgradeDev) :
    reports writes status count (dev :: devs) = reports writes status count devs :=
  if_neg h

/-- A failing `Write` is the last one of an entry, and nothing is delivered by it. -/
theorem delivered_failed {dev : EocUpgradeDev} (h : dev.devType = .parkingarea) {count : Nat}
    (hfail : writes count < 0) (devs : List EocUpgradeDev) :
    delivered (reports writes status count (dev :: devs)) = [] := by
  have hnone : ¬ 0 ≤ writes count := Int.not_le.mpr hfail
  rw [reports, if_pos h, if_pos hfail, delivered]
  simp [hnone]

/-- A message that was written is followed by those of the other devices. -/
theorem reports_written {dev : EocUpgradeDev} (h : dev.devType = .parkingarea) {count : Nat}
    (hwrite : 0 ≤ writes count) (devs : List EocUpgradeDev) :
    reports writes status count (dev :: devs) =
      (S106.ofStatus status dev.commGuid, writes count) :: reports writes status (count + 1) devs
    := by
  rw [reports, if_pos h, if_neg (Int.not_lt.mpr hwrite)]

theorem delivered_cons {s106 : S106} {len : Int} (hlen : 0 ≤ len) (rest : List (S106 × Int)) :
    delivered ((s106, len) :: rest) = s106 :: delivered rest := by
  rw [delivered, List.filter_cons_of_pos (by simpa using hlen), List.map_cons]
  rfl

/-- When every device gets its message: the first failure and the first device of another type
leave fewer messages than devices. -/
theorem length_le_delivered_iff (count : Nat) (devs : List EocUpgradeDev) :
    (delivered (reports writes status count devs)).length ≤ devs.length ∧
      (devs.length ≤ (delivered (reports writes status count devs)).length ↔
        (∀ dev ∈ devs, dev.devType = .parkingarea) ∧
          ∀ i < devs.length, 0 ≤ writes (count + i)) := by
  induction devs generalizing count with
  | nil => simp [reports, delivered]
  | cons dev devs ih =>
      rw [List.forall_mem_cons, List.length_cons, Nat.forall_lt_succ_left]
      by_cases htype : dev.devType = .parkingarea
      · by_cases hwrite : 0 ≤ writes count
        · obtain ⟨hle, hiff⟩ := ih (count + 1)
          rw [reports_written htype hwrite, delivered_cons hwrite, List.length_cons]
          refine ⟨Nat.succ_le_succ hle, ?_⟩
          rw [Nat.add_le_add_iff_right, hiff]
          have hshift (i : Nat) : count + 1 + i = count + (i + 1) := by omega
          simp only [hshift, Nat.add_zero, htype, hwrite, true_and]
        · rw [delivered_failed htype (Int.not_le.mp hwrite)]
          simp [hwrite]
      · obtain ⟨hle, -⟩ := ih count
        rw [reports_passed htype]
        refine ⟨Nat.le_succ_of_le hle, ?_⟩
        simp only [htype, false_and, iff_false]
        omega

/-- When every device gets its message, these are the results of the entry. -/
theorem reports_all {count : Nat} {devs : List EocUpgradeDev}
    (hdevs : ∀ dev ∈ devs, dev.devType = .parkingarea)
    (hwrites : ∀ i < devs.length, 0 ≤ writes (count + i)) :
    delivered (reports writes status count devs) =
        devs.map (fun dev => S106.ofStatus status dev.commGuid) ∧
      (reports writes status count devs).length = devs.length := by
  induction devs generalizing count with
  | nil => exact ⟨rfl, rfl⟩
  | cons dev devs ih =>
      obtain ⟨hdev, hrest⟩ := List.forall_mem_cons.mp hdevs
      rw [List.length_cons, Nat.forall_lt_succ_left] at hwrites
      obtain ⟨hwrite, hlater⟩ := hwrites
      rw [Nat.add_zero] at hwrite
      obtain ⟨hdelivered, hlength⟩ := @ih (count + 1) hrest fun i hi => by
        rw [show count + 1 + i = count + (i + 1) by omega]
        exact hlater i hi
      rw [reports_written hdev hwrite, delivered_cons hwrite, hdelivered, List.length_cons, hlength]
      exact ⟨rfl, rfl⟩

/-- An idle entry stays, and nothing is written. -/
theorem visit_idle {msg : EocDownloadsMsg} (h : msg.downloadStatus = .idle) :
    step.visit writes msg = { step with kept := step.kept ++ [msg] } :=
  if_neg (not_not_intro h)

/-- Every other entry is erased, whatever was written. -/
theorem visit_spec {msg : EocDownloadsMsg} (h : msg.downloadStatus ≠ .idle) :
    (step.visit writes msg).sent = step.sent ++
        reports writes msg.downloadStatus step.sent.length msg.upgradeDev ∧
      (step.visit writes msg).kept = step.kept := by
  rw [visit, if_pos h]
  exact reportDevs_spec msg.upgradeDev step

/-- The round keeps its entry if and only if this is idle. -/
theorem keeps_iff (msg : EocDownloadsMsg) (step : DownloadStep) :
    Visit.Keeps ⟨msg, step, step.visit writes msg⟩ ↔ msg.downloadStatus = .idle := by
  by_cases h : msg.downloadStatus = .idle
  · simp only [h, iff_true]
    show (step.visit writes msg).kept = _
    rw [visit_idle h]
  · simp only [h, iff_false]
    show ¬ (step.visit writes msg).kept = step.kept ++ [msg]
    rw [(visit_spec h).2]
    simp

/-- When a round loses no result: every device is a main control board and each `Write` for it
succeeds. -/
theorem visit_iff {msg : EocDownloadsMsg} (h : msg.downloadStatus ≠ .idle) (step : DownloadStep) :
    Visit.KeepsUnreported ⟨msg, step, step.visit writes msg⟩ ↔
      (msg.downloadStatus.isResult = true ∧ ∀ dev ∈ msg.upgradeDev, dev.devType = .parkingarea) ∧
        ∀ i < msg.upgradeDev.length, 0 ≤ writes (step.sent.length + i) := by
  have hsent : Visit.sent ⟨msg, step, step.visit writes msg⟩ =
      reports writes msg.downloadStatus step.sent.length msg.upgradeDev := by
    rw [Visit.sent, (visit_spec h).1, List.drop_left]
  have hiff := (@length_le_delivered_iff writes msg.downloadStatus step.sent.length
    msg.upgradeDev).2
  rw [Visit.KeepsUnreported, keeps_iff, hsent, and_assoc, ← hiff]
  simp only [h, false_or, and_congr_right_iff]
  intro _
  constructor
  · intro hsublist
    have hle := hsublist.length_le
    rwa [results, List.length_map] at hle
  · intro hle
    obtain ⟨hdevs, hwrites⟩ := hiff.mp hle
    rw [(reports_all hdevs hwrites).1]
    exact List.Sublist.refl _

/-- The condition for a list, from its first entry on. -/
theorem reportable_cons (msg : EocDownloadsMsg) (rest : List EocDownloadsMsg) :
    Reportable (msg :: rest) ↔
      (msg.downloadStatus ≠ .idle →
        msg.downloadStatus.isResult = true ∧
          ∀ dev ∈ msg.upgradeDev, dev.devType = .parkingarea) ∧ Reportable rest :=
  List.forall_mem_cons

/-- The numbers below a sum. -/
theorem forall_lt_add {p : Nat → Prop} (a b : Nat) :
    (∀ i < a + b, p i) ↔ (∀ i < a, p i) ∧ ∀ i < b, p (a + i) := by
  constructor
  · intro h
    exact ⟨fun i hi => h i (by omega), fun i hi => h (a + i) (by omega)⟩
  · rintro ⟨hfirst, hsecond⟩ i hi
    by_cases hlt : i < a
    · exact hfirst i hlt
    · rw [show i = a + (i - a) by omega]
      exact hsecond (i - a) (by omega)

/-- The rounds from any point of the pass on. -/
theorem visits_iff (step : DownloadStep) (downloadsMsg : List EocDownloadsMsg) :
    (∀ round ∈ visits writes step downloadsMsg, round.KeepsUnreported) ↔
      Reportable downloadsMsg ∧
        ∀ i < due downloadsMsg, 0 ≤ writes (step.sent.length + i) := by
  induction downloadsMsg generalizing step with
  | nil => simp [visits, Reportable, due]
  | cons msg rest ih =>
      rw [visits, List.forall_mem_cons, reportable_cons, due]
      by_cases h : msg.downloadStatus = .idle
      · have hkeeps : Visit.KeepsUnreported ⟨msg, step, step.visit writes msg⟩ :=
          .inl ((keeps_iff msg step).mpr h)
        have hsent : (step.visit writes msg).sent = step.sent := by rw [visit_idle h]
        rw [ih, hsent]
        simp only [hkeeps, h, ne_eq, not_true_eq_false, false_imp_iff, if_true, Nat.zero_add,
          true_and]
      · rw [visit_iff h, if_neg h, forall_lt_add]
        simp only [h, ne_eq, not_false_eq_true, true_imp_iff]
        constructor
        · rintro ⟨⟨hmsg, hwrites⟩, hrest⟩
          have hlength := (@reports_all writes msg.downloadStatus _ _ hmsg.2 hwrites).2
          obtain ⟨hreportable, hlater⟩ := (ih _).mp hrest
          rw [(visit_spec h).1, List.length_append, hlength] at hlater
          simp only [Nat.add_assoc] at hlater
          exact ⟨⟨hmsg, hreportable⟩, hwrites, hlater⟩
        · rintro ⟨⟨hmsg, hreportable⟩, hwrites, hlater⟩
          have hlength := (@reports_all writes msg.downloadStatus _ _ hmsg.2 hwrites).2
          refine ⟨⟨hmsg, hwrites⟩, (ih _).mpr ⟨hreportable, ?_⟩⟩
          rw [(visit_spec h).1, List.length_append, hlength]
          simp only [Nat.add_assoc]
          exact hlater

/-- The list behind the step holds the entries whose rounds kept them. -/
theorem kept_foldl (step : DownloadStep) (downloadsMsg : List EocDownloadsMsg) :
    (downloadsMsg.foldl (visit writes) step).kept = step.kept ++
      ((visits writes step downloadsMsg).filter fun round => round.Keeps).map Visit.msg := by
  induction downloadsMsg generalizing step with
  | nil => exact (List.append_nil _).symm
  | cons msg rest ih =>
      have hkeeps := @keeps_iff writes msg step
      rw [List.foldl_cons, ih, visits, List.filter_cons]
      by_cases h : msg.downloadStatus = .idle
      · have hkept : (step.visit writes msg).kept = step.kept ++ [msg] := hkeeps.mpr h
        rw [if_pos (decide_eq_true (hkeeps.mpr h)), List.map_cons, hkept, List.append_assoc]
        rfl
      · rw [if_neg (by simpa using fun hkept => h (hkeeps.mp hkept)), (visit_spec h).2]

/-- Nothing is lost if and only if the entries can be reported and `Write` succeeds once for each
device. -/
theorem keepsUnreported_iff (writes : Nat → Int) (isLive : Bool)
    (downloadsMsg : List EocDownloadsMsg) :
    KeepsUnreported writes isLive downloadsMsg ↔
      Reportable downloadsMsg ∧ ∀ i < due downloadsMsg, 0 ≤ writes i := by
  have hvisits := @visits_iff writes { isLive } downloadsMsg
  simp only [List.length_nil, Nat.zero_add] at hvisits
  rw [KeepsUnreported, ← hvisits]
  exact and_iff_right (kept_foldl { isLive } downloadsMsg)

/-- A finished download for one main control board. -/
def oneFinished : EocDownloadsMsg where
  upgradeDev := [{ devGuid := "", devIp := "", devType := .parkingarea, commGuid := "1" }]
  downloadStatus := .finished
  downloadUrl := "http://eoc/2"
  downloadFileName := "2"
  downloadFileSize := 1
  downloadFileMd5 := "02"

/-- When the connection is lost, the entry is erased without its result. -/
theorem not_keepsUnreported_failed_write :
    ¬ KeepsUnreported (fun _ => -1) true [oneFinished] := by
  intro h
  rcases h.2 ⟨oneFinished, { isLive := true }, _⟩ List.mem_cons_self with hkeeps | ⟨-, hsublist⟩
  · cases hkeeps
  · cases hsublist

end DownloadStep

end RVDataFusionServer
