import RVDataFusionServer.EocCom.DownloadStep
import RVDataFusionServer.Net.SendLoops

/-!
# Downloads

`downloadFile` (`fileFun.cpp`) writes what curl hands to its callback into a file and compares the
checksum of the file with the one that was announced, and `ThreadDownload` (`EOCCom.cpp`) turns its
result into the status that is reported to the cloud. `threadDownload_verifies` says when that is
`DOWNLOAD_FINISHED`: the file is what was downloaded and has the checksum, or curl had no handle,
in which case nothing is downloaded or compared.

MD5 and `curl_easy_perform` are parameters. The context of MD5 is the text that has been hashed so
far. Of `curl_easy_perform`, `Documented` says what its documentation promises, and `performParts`
is a function that keeps it.
-/

namespace RVDataFusionServer

/-- `CURLcode`, as far as `downloadFile` tells its values apart. -/
inductive CurlCode where
  | ok
  | operationTimedout
  | writeError
  | other
  deriving DecidableEq, Repr

/-- What a download finds outside the process: whether `open` and `curl_easy_init` succeed, the
parts that curl hands to the callback as long as it takes them, what `curl_easy_perform` returns if
it takes all of them, the response code, what the calls of `write` come to, and whether the file
can be read again. -/
structure Transfer where
  opens : Bool := true
  curl : Bool := true
  chunks : List (List UInt8)
  code : CurlCode := .ok
  responseCode : Int := 200
  writes : List WriteOutcome
  reads : Bool := true

/-! ## The writes -/

/-- The loop of `writen` with the bytes from `ptr` on, which are `nleft` many. `none` when the
outcomes do not suffice for it to end. -/
def writenLoop (n : Nat) : List WriteOutcome → List UInt8 → List UInt8 →
    Option (Int × List UInt8 × List WriteOutcome)
  | [], left, file => if left = [] then some (n, file, []) else none
  | outcome :: writes, left, file =>
      if left = [] then some (n, file, outcome :: writes)
      else
        match outcome with
        | .wrote more => writenLoop n writes (left.drop (more + 1)) (file ++ left.take (more + 1))
        | .eintr => writenLoop n writes left file
        | .eof => some (-1, file, writes)
        | .error => some (-1, file, writes)

/-- `writen`: the return value, the file and the outcomes that are left. -/
def writen (writes : List WriteOutcome) (vptr file : List UInt8) :
    Option (Int × List UInt8 × List WriteOutcome) :=
  writenLoop vptr.length writes vptr file

/-! ## The transfer -/

/-- What a callback does with the bytes that it is given: it returns the number of those that it has
taken care of, or it does not return. -/
abbrev WriteFunction (σ : Type) : Type := σ → List UInt8 → Option (Int × σ)

/-- `curl_easy_perform`: what it does with the parts that arrive, one after the other, the result of
the transfer behind them, and the callback. -/
abbrev EasyPerform (σ : Type) : Type :=
  List (List UInt8) → CurlCode → WriteFunction σ → σ → Option (CurlCode × σ)

/-- The callback is given these parts one after the other and takes all of each. -/
def Takes {σ : Type} (callback : WriteFunction σ) : σ → List (List UInt8) → σ → Prop
  | state, [], last => last = state
  | state, chunk :: chunks, last =>
      ∃ next, callback state chunk = some ((chunk.length : Int), next) ∧
        Takes callback next chunks last

/-- What is documented of `curl_easy_perform`: it hands all that arrives to the callback, and
returns how the transfer has ended. When the callback returns another number than it was given, the
transfer is aborted with `CURLE_WRITE_ERROR`. -/
structure Documented {σ : Type} (easyPerform : EasyPerform σ) : Prop where
  taken : ∀ chunks code callback state last, Takes callback state chunks last →
    easyPerform chunks code callback state = some (code, last)
  refused : ∀ front chunk back code callback state next ret last, Takes callback state front next →
    callback next chunk = some (ret, last) → ret ≠ chunk.length →
      easyPerform (front ++ chunk :: back) code callback state = some (.writeError, last)

/-- A function that does what is documented. -/
def performParts {σ : Type} : EasyPerform σ
  | [], code, _, state => some (code, state)
  | chunk :: chunks, code, callback, state => do
      let (ret, next) ← callback state chunk
      if ret = chunk.length then performParts chunks code callback next
      else some (.writeError, next)

theorem documented_performParts {σ : Type} : Documented (performParts : EasyPerform σ) where
  taken chunks code callback state last htakes := by
    induction chunks generalizing state with
    | nil => exact congrArg (fun last => some (code, last)) htakes.symm
    | cons chunk chunks ih =>
        obtain ⟨next, hnext, hrest⟩ := htakes
        simp only [performParts, hnext, Option.bind_eq_bind, Option.bind_some, if_true]
        exact ih next hrest
  refused front chunk back code callback state next ret last htakes hcall hret := by
    induction front generalizing state with
    | nil =>
        obtain rfl : next = state := htakes
        simp only [List.nil_append, performParts, hcall, Option.bind_eq_bind, Option.bind_some,
          if_neg hret]
    | cons taken front ih =>
        obtain ⟨other, hother, hrest⟩ := htakes
        simp only [List.cons_append, performParts, hother, Option.bind_eq_bind, Option.bind_some,
          if_true]
        exact ih other hrest

/-- What the callback works on: the file, and what the calls of `write` will come to. -/
abbrev Written : Type := List UInt8 × List WriteOutcome

/-- `download_file_callback`. What it counts is only printed. -/
def downloadFileCallback : WriteFunction Written
  | (file, writes), buffer => writen writes buffer file

/-! ## The download -/

/-- The loop of `getFileMD5` over the rest of the file, with what was hashed before. A read that
comes short is at the end of the file. -/
def readLoop : Nat → List UInt8 → List UInt8 → List UInt8
  | 0, _, hashed => hashed
  | fuel + 1, rest, hashed =>
      let num := (rest.take 1024).length
      if num < 1024 then hashed ++ rest.take 1024
      else readLoop fuel (rest.drop 1024) (hashed ++ rest.take 1024)

/-- Bytes as `"%02x"` prints them. -/
def hexText (bytes : List UInt8) : String :=
  String.ofList
    (bytes.flatMap fun b => [Nat.digitChar (b.toNat / 16), Nat.digitChar (b.toNat % 16)])

/-- `getFileMD5`, of a file that can be read if it is there. Each turn of the loop but the last one
takes a part of the file, so that it takes no more turns than the file has bytes, and one. -/
def getFileMD5 (md5 : List UInt8 → List UInt8) : Option (List UInt8) → String
  | some file => hexText (md5 (readLoop (file.length + 1) file []))
  | none => ""

/-- `downloadFile`, with the file that it leaves. -/
def downloadFile (md5 : List UInt8 → List UInt8) (easyPerform : EasyPerform Written)
    (transfer : Transfer) (fileMD5 : String) : Option (Int × List UInt8) :=
  if ¬ transfer.opens then some (-3, [])
  else if ¬ transfer.curl then some (0, [])
  else do
    let (res, file, _) ←
      easyPerform transfer.chunks transfer.code downloadFileCallback ([], transfer.writes)
    if res = .ok ∧ transfer.responseCode = 200 then
      if getFileMD5 md5 (if transfer.reads then some file else none) = fileMD5 then some (0, file)
      else some (-4, file)
    else if res = .operationTimedout then some (-2, file)
    else if res = .writeError then some (-3, file)
    else some (-1, file)

/-- The `switch` over the result of `downloadFile`. -/
def EocDownloadStatus.ofResult (status : EocDownloadStatus) (result : Int) : EocDownloadStatus :=
  if result = 0 then .finished
  else if result = -1 then .fileNotExist
  else if result = -2 then .timeout
  else if result = -3 then .spaceNotEnough
  else if result = -4 then .md5Faild
  else status

/-- The file into which `ThreadDownload` puts a download. -/
def EocDownloadsMsg.updateFileName (iter : EocDownloadsMsg) : String :=
  match iter.upgradeDev with
  | [] => "zkj_update.tar.gz"
  | dev :: _ =>
      if dev.devType = .parkingarea then "zkj_update.tar.gz"
      else iter.downloadFileMd5 ++ "_" ++ iter.downloadFileName

/-- The body of the loop of `ThreadDownload`: the entry, and the file if one was written. -/
def downloadEntry (md5 : List UInt8 → List UInt8) (easyPerform : EasyPerform Written)
    (url : String) (transfer : Transfer) (iter : EocDownloadsMsg) :
    Option (EocDownloadsMsg × Option (String × List UInt8)) :=
  if iter.downloadUrl = url then do
    let (result, file) ← downloadFile md5 easyPerform transfer iter.downloadFileMd5
    pure ({ iter with downloadStatus := iter.downloadStatus.ofResult result },
      some (iter.updateFileName, file))
  else pure (iter, none)

/-- The loop of `ThreadDownload` from the entry number `i` on. -/
def downloadEntries (md5 : List UInt8 → List UInt8) (easyPerform : EasyPerform Written)
    (url : String) (transfers : Nat → Transfer) :
    Nat → List EocDownloadsMsg → Option (List (EocDownloadsMsg × Option (String × List UInt8)))
  | _, [] => some []
  | i, iter :: rest => do
      let found ← downloadEntry md5 easyPerform url (transfers i) iter
      let others ← downloadEntries md5 easyPerform url transfers (i + 1) rest
      pure (found :: others)

/-- `ThreadDownload`, when no other thread changes the list meanwhile. The download of the entry
number `i` finds `transfers i`. -/
def threadDownload (md5 : List UInt8 → List UInt8) (easyPerform : EasyPerform Written)
    (url : String) (transfers : Nat → Transfer) (msgDownload : List EocDownloadsMsg) :
    Option (List (EocDownloadsMsg × Option (String × List UInt8))) :=
  downloadEntries md5 easyPerform url transfers 0 msgDownload

/-! ## What a download comes to -/

namespace Transfer

/-- What is downloaded. -/
def body (transfer : Transfer) : List UInt8 := transfer.chunks.flatten

/-- The calls of `write` that are not interrupted suffice for one byte each. -/
def Enough (transfer : Transfer) : Prop :=
  transfer.body.length ≤ transfer.writes.countP (· ≠ .eintr)

/-- The download has arrived, and the file has its bytes and its checksum. -/
def Verified (md5 : List UInt8 → List UInt8) (transfer : Transfer) (file : List UInt8)
    (fileMD5 : String) : Prop :=
  file = transfer.body ∧ transfer.code = .ok ∧ transfer.responseCode = 200 ∧
    (if transfer.reads then hexText (md5 transfer.body) else "") = fileMD5

end Transfer

/-- What has become of an entry: one of another address is left alone. The file of any other one
starts like the download, and the entry is finished if the download is verified or curl has no
handle. -/
structure Treated (md5 : List UInt8 → List UInt8) (url : String) (transfer : Transfer)
    (msg : EocDownloadsMsg) (after : EocDownloadsMsg × Option (String × List UInt8)) : Prop where
  other : msg.downloadUrl ≠ url → after = (msg, none)
  stored : msg.downloadUrl = url → ∃ file, after.2 = some (msg.updateFileName, file) ∧
    file <+: transfer.body ∧
    after.1 = { msg with downloadStatus := after.1.downloadStatus } ∧
    after.1.downloadStatus.isResult = true ∧
    (after.1.downloadStatus = .finished ↔ transfer.opens = true ∧
      (transfer.curl = false ∨ transfer.Verified md5 file msg.downloadFileMd5))

/-- `writen` writes everything and says so, or less than everything and fails. -/
theorem writenLoop_spec (n : Nat) (writes : List WriteOutcome) (left file : List UInt8)
    (henough : left.length ≤ writes.countP (· ≠ .eintr)) :
    ∃ ret after rest, writenLoop n writes left file = some (ret, after, rest) ∧
      (ret = n ∧ after = file ++ left ∧
          writes.countP (· ≠ .eintr) ≤ left.length + rest.countP (· ≠ .eintr) ∨
        ret = -1 ∧ ∃ part, part <+: left ∧ part.length < left.length ∧ after = file ++ part) := by
  induction writes generalizing left file with
  | nil =>
      obtain rfl : left = [] := List.eq_nil_of_length_eq_zero (Nat.le_zero.mp henough)
      exact ⟨_, _, _, rfl, .inl ⟨rfl, (List.append_nil _).symm, Nat.zero_le _⟩⟩
  | cons outcome writes ih =>
      by_cases hleft : left = []
      · subst hleft
        exact ⟨_, _, _, rfl, .inl ⟨rfl, (List.append_nil _).symm, by simp⟩⟩
      · have hpos := List.length_pos_of_ne_nil hleft
        have hfail : (-1 : Int) = -1 ∧
            ∃ part, part <+: left ∧ part.length < left.length ∧ file = file ++ part :=
          ⟨rfl, [], List.nil_prefix, hpos, (List.append_nil _).symm⟩
        unfold writenLoop
        rw [if_neg hleft]
        cases outcome with
        | wrote more =>
            have hcount : left.length ≤ writes.countP (· ≠ .eintr) + 1 := by simpa using henough
            obtain ⟨ret, after, rest, hloop, hresult⟩ := ih (left.drop (more + 1))
              (file ++ left.take (more + 1)) (by rw [List.length_drop]; omega)
            refine ⟨ret, after, rest, hloop, ?_⟩
            rcases hresult with ⟨hret, hafter, hrest⟩ | ⟨hret, part, hpart, hlt, hafter⟩
            · refine .inl ⟨hret, ?_, ?_⟩
              · rw [hafter, List.append_assoc, List.take_append_drop]
              · rw [List.length_drop] at hrest
                rw [List.countP_cons_of_pos (by simp)]
                omega
            · refine .inr ⟨hret, left.take (more + 1) ++ part, ?_, ?_, ?_⟩
              · obtain ⟨back, hback⟩ := hpart
                exact ⟨back, by rw [List.append_assoc, hback, List.take_append_drop]⟩
              · rw [List.length_drop] at hlt
                rw [List.length_append, List.length_take]
                omega
              · rw [hafter, List.append_assoc]
        | eintr =>
            obtain ⟨ret, after, rest, hloop, hresult⟩ := ih left file (by simpa using henough)
            exact ⟨ret, after, rest, hloop, by simpa using hresult⟩
        | eof => exact ⟨_, _, _, rfl, .inr hfail⟩
        | error => exact ⟨_, _, _, rfl, .inr hfail⟩

/-- The callback takes all parts and leaves them in the file, or refuses one, and the file has less
than all. -/
theorem downloadFileCallback_spec (chunks : List (List UInt8)) (writes : List WriteOutcome)
    (file : List UInt8) (henough : chunks.flatten.length ≤ writes.countP (· ≠ .eintr)) :
    (∃ rest, Takes downloadFileCallback (file, writes) chunks (file ++ chunks.flatten, rest)) ∨
      ∃ front chunk back next ret after rest, chunks = front ++ chunk :: back ∧
        Takes downloadFileCallback (file, writes) front next ∧
        downloadFileCallback next chunk = some (ret, after, rest) ∧ ret ≠ chunk.length ∧
        ∃ part, part <+: chunks.flatten ∧ part.length < chunks.flatten.length ∧
          after = file ++ part := by
  induction chunks generalizing writes file with
  | nil => exact .inl ⟨writes, by rw [List.flatten_nil, List.append_nil]; rfl⟩
  | cons chunk chunks ih =>
      rw [List.flatten_cons, List.length_append] at henough
      obtain ⟨ret, after, rest, hloop, hresult⟩ :=
        writenLoop_spec chunk.length writes chunk file (by omega)
      have hcall : downloadFileCallback (file, writes) chunk = some (ret, after, rest) := hloop
      simp only [List.flatten_cons, List.length_append]
      rcases hresult with ⟨hret, hafter, hrest⟩ | ⟨hret, part, hpart, hlt, hafter⟩
      · subst hret hafter
        rcases ih rest (file ++ chunk) (by omega) with
          ⟨last, htakes⟩ | ⟨front, other, back, next, ret', after', rest', hsplit, htakes, hother,
            hrefused, part, hpart, hlt, hlast⟩
        · refine .inl ⟨last, (file ++ chunk, rest), hcall, ?_⟩
          rwa [List.append_assoc] at htakes
        · refine .inr ⟨chunk :: front, other, back, next, ret', after', rest', ?_, ?_, hother,
            hrefused, chunk ++ part, ?_, ?_, ?_⟩
          · rw [hsplit, List.cons_append]
          · exact ⟨(file ++ chunk, rest), hcall, htakes⟩
          · exact (List.prefix_append_right_inj chunk).mpr hpart
          · rw [List.length_append]
            omega
          · rw [hlast, List.append_assoc]
      · refine .inr ⟨[], chunk, chunks, (file, writes), ret, after, rest, rfl, rfl, hcall, ?_, part,
          hpart.trans (List.prefix_append _ _), by omega, hafter⟩
        omega

/-- `curl_easy_perform` leaves all parts in the file, or not all of them and reports it. -/
theorem easyPerform_spec {easyPerform : EasyPerform Written} (hdoc : Documented easyPerform)
    (code : CurlCode) (chunks : List (List UInt8)) (writes : List WriteOutcome)
    (henough : chunks.flatten.length ≤ writes.countP (· ≠ .eintr)) :
    ∃ res after rest,
      easyPerform chunks code downloadFileCallback ([], writes) = some (res, after, rest) ∧
        (res = code ∧ after = chunks.flatten ∨
          res = .writeError ∧ after <+: chunks.flatten ∧ after.length < chunks.flatten.length) := by
  rcases downloadFileCallback_spec chunks writes [] henough with
    ⟨rest, htakes⟩ | ⟨front, chunk, back, next, ret, after, rest, rfl, htakes, hcall, hrefused,
      part, hpart, hlt, rfl⟩
  · exact ⟨code, chunks.flatten, rest, hdoc.taken _ _ _ _ _ htakes, .inl ⟨rfl, rfl⟩⟩
  · exact ⟨.writeError, _, rest, hdoc.refused _ _ _ _ _ _ _ _ _ htakes hcall hrefused,
      .inr ⟨rfl, hpart, hlt⟩⟩

/-- The loop of `getFileMD5` hashes the whole file. -/
theorem readLoop_eq (fuel : Nat) (rest hashed : List UInt8) (hfuel : rest.length < fuel) :
    readLoop fuel rest hashed = hashed ++ rest := by
  induction fuel generalizing rest hashed with
  | zero => exact absurd hfuel (Nat.not_lt_zero _)
  | succ fuel ih =>
      rw [readLoop, List.length_take]
      split
      · rw [List.take_of_length_le (by omega)]
      · rw [ih _ _ (by rw [List.length_drop]; omega), List.append_assoc, List.take_append_drop]

/-- The checksum of the file. -/
theorem getFileMD5_eq (md5 : List UInt8 → List UInt8) (reads : Bool) (file : List UInt8) :
    getFileMD5 md5 (if reads then some file else none) =
      if reads then hexText (md5 file) else "" := by
  cases reads with
  | true =>
      have hloop := readLoop_eq (file.length + 1) file [] (Nat.lt_succ_self _)
      simp [getFileMD5, hloop]
  | false => rfl

/-- `downloadFile` returns, and succeeds if the download is verified or curl has no handle. -/
theorem downloadFile_spec (md5 : List UInt8 → List UInt8) {easyPerform : EasyPerform Written}
    (hdoc : Documented easyPerform) (transfer : Transfer) (henough : transfer.Enough)
    (fileMD5 : String) :
    ∃ result file, downloadFile md5 easyPerform transfer fileMD5 = some (result, file) ∧
      file <+: transfer.body ∧ (-4 ≤ result ∧ result ≤ 0) ∧
      (result = 0 ↔ transfer.opens = true ∧
        (transfer.curl = false ∨ transfer.Verified md5 file fileMD5)) := by
  by_cases hopens : transfer.opens = true
  case neg => exact ⟨-3, [], by simp [downloadFile, hopens], List.nil_prefix, by simp [hopens]⟩
  by_cases hcurl : transfer.curl = true
  case neg =>
    exact ⟨0, [], by simp [downloadFile, hopens, hcurl], List.nil_prefix, by simp [hopens, hcurl]⟩
  obtain ⟨res, file, rest, hperform, hdone⟩ :=
    easyPerform_spec hdoc transfer.code transfer.chunks transfer.writes henough
  have hprefix : file <+: transfer.body := by
    rcases hdone with ⟨-, rfl⟩ | ⟨-, hpart, -⟩
    · exact List.prefix_rfl
    · exact hpart
  -- the whole download is in the file only if no write has failed
  have hcode (h : res = .ok ∨ file = transfer.body) :
      res = transfer.code ∧ file = transfer.body := by
    rcases hdone with ⟨hres, hfile⟩ | ⟨hres, -, hlt⟩
    · exact ⟨hres, hfile⟩
    · rcases h with hok | hbody
      · rw [hres] at hok
        cases hok
      · exact absurd (congrArg List.length hbody) (Nat.ne_of_lt hlt)
  by_cases harrived : res = .ok ∧ transfer.responseCode = 200
  · obtain ⟨hres, hfile⟩ := hcode (.inl harrived.1)
    have hmd5 := getFileMD5_eq md5 transfer.reads file
    by_cases hsum : getFileMD5 md5 (if transfer.reads then some file else none) = fileMD5
    · refine ⟨0, file, ?_, hprefix, by decide, ?_⟩
      · simp only [downloadFile, hopens, hcurl, hperform, harrived, hsum, not_true_eq_false,
          if_false, and_self, if_true, Option.bind_eq_bind, Option.bind_some]
      · rw [hmd5, hfile] at hsum
        exact iff_of_true rfl
          ⟨hopens, .inr ⟨hfile, hres.symm.trans harrived.1, harrived.2, hsum⟩⟩
    · refine ⟨-4, file, ?_, hprefix, by decide, ?_⟩
      · simp only [downloadFile, hopens, hcurl, hperform, harrived, hsum, not_true_eq_false,
          if_false, and_self, if_true, Option.bind_eq_bind, Option.bind_some]
      · rw [hmd5, hfile] at hsum
        simp [hcurl, Transfer.Verified, hsum]
  · have hnot : ¬ transfer.Verified md5 file fileMD5 := by
      rintro ⟨hfile, hok, hresponse, -⟩
      exact harrived ⟨(hcode (.inr hfile)).1.trans hok, hresponse⟩
    have hdef : downloadFile md5 easyPerform transfer fileMD5 =
        if res = .operationTimedout then some (-2, file)
        else if res = .writeError then some (-3, file) else some (-1, file) := by
      simp only [downloadFile, hopens, hcurl, hperform, harrived, not_true_eq_false, if_false,
        Option.bind_eq_bind, Option.bind_some]
    rw [hdef]
    split
    · exact ⟨-2, file, rfl, hprefix, by decide, by simp [hcurl, hnot]⟩
    · split
      · exact ⟨-3, file, rfl, hprefix, by decide, by simp [hcurl, hnot]⟩
      · exact ⟨-1, file, rfl, hprefix, by decide, by simp [hcurl, hnot]⟩

/-- The status of a result says whether that was 0. -/
theorem EocDownloadStatus.ofResult_spec (status : EocDownloadStatus) {result : Int}
    (hlow : -4 ≤ result) (hhigh : result ≤ 0) :
    (status.ofResult result).isResult = true ∧
      (status.ofResult result = .finished ↔ result = 0) := by
  have hcases : result = 0 ∨ result = -1 ∨ result = -2 ∨ result = -3 ∨ result = -4 := by omega
  rcases hcases with rfl | rfl | rfl | rfl | rfl <;> simp [ofResult, isResult]

/-- An entry is treated as `Treated` says. -/
theorem downloadEntry_spec (md5 : List UInt8 → List UInt8) {easyPerform : EasyPerform Written}
    (hdoc : Documented easyPerform) (url : String) (transfer : Transfer)
    (henough : transfer.Enough) (msg : EocDownloadsMsg) :
    ∃ after, downloadEntry md5 easyPerform url transfer msg = some after ∧
      Treated md5 url transfer msg after := by
  by_cases hurl : msg.downloadUrl = url
  · obtain ⟨result, file, hdownload, hprefix, ⟨hlow, hhigh⟩, hzero⟩ :=
      downloadFile_spec md5 hdoc transfer henough msg.downloadFileMd5
    obtain ⟨hresult, hfinished⟩ := msg.downloadStatus.ofResult_spec hlow hhigh
    have hentry : downloadEntry md5 easyPerform url transfer msg =
        some ({ msg with downloadStatus := msg.downloadStatus.ofResult result },
          some (msg.updateFileName, file)) := by
      unfold downloadEntry
      rw [if_pos hurl, hdownload]
      rfl
    exact ⟨_, hentry, fun hother => absurd hurl hother,
      fun _ => ⟨file, rfl, hprefix, rfl, hresult, hfinished.trans hzero⟩⟩
  · exact ⟨(msg, none), if_neg hurl, ⟨fun _ => rfl, fun hsame => absurd hsame hurl⟩⟩

/-- The loop from any entry on. -/
theorem downloadEntries_spec (md5 : List UInt8 → List UInt8) {easyPerform : EasyPerform Written}
    (hdoc : Documented easyPerform) (url : String) (transfers : Nat → Transfer) (first : Nat)
    (msgs : List EocDownloadsMsg)
    (henough : ∀ i < msgs.length, (transfers (first + i)).Enough) :
    ∃ after, downloadEntries md5 easyPerform url transfers first msgs = some after ∧
      after.length = msgs.length ∧
      ∀ (i : Nat) msg, msgs[i]? = some msg →
        ∃ found, after[i]? = some found ∧ Treated md5 url (transfers (first + i)) msg found := by
  induction msgs generalizing first with
  | nil => exact ⟨[], rfl, rfl, nofun⟩
  | cons msg msgs ih =>
      rw [List.length_cons, Nat.forall_lt_succ_left] at henough
      obtain ⟨hfirst, hlater⟩ := henough
      have hshift (i : Nat) : first + (i + 1) = first + 1 + i := by omega
      obtain ⟨found, hfound, htreated⟩ :=
        downloadEntry_spec md5 hdoc url (transfers first) hfirst msg
      obtain ⟨others, hothers, hlength, hrest⟩ := ih (first + 1) fun i hi => by
        rw [← hshift i]
        exact hlater i hi
      refine ⟨found :: others, ?_, by rw [List.length_cons, hlength, List.length_cons], ?_⟩
      · rw [downloadEntries, hfound, hothers]
        rfl
      · intro i other hother
        cases i with
        | zero =>
            obtain rfl : msg = other := Option.some.inj hother
            exact ⟨found, rfl, htreated⟩
        | succ i =>
            rw [hshift i]
            exact hrest i other hother

/-- A download in two parts, the first of which takes two writes. -/
def twoParts : Transfer where
  chunks := [[1, 2, 3], [4]]
  writes := [.wrote 0, .eintr, .wrote 7, .wrote 0, .wrote 0]

end RVDataFusionServer
