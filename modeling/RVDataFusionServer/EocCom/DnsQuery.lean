import RVDataFusionServer.EocCom.DnsDataParse

/-!
# The question to a DNS server

`dns_resolve_114` (`DNSServer.cpp`) copies the host behind the header and writes the lengths of the
labels over the dots. `dnsRequest_iff` says for which hosts the bytes that it sends are a query for
the address of that host.
-/

namespace RVDataFusionServer.Dns

open Library

/-- The dot between two labels. -/
def dot : UInt8 := 0x2E

/-- The loop over the host with `remaining` bytes left, and the last label behind it. `i` is stored
as a `char`. -/
def labelLoop : Nat → Nat → Nat → Block UInt8 → Except Fault (Block UInt8)
  | 0, ptr, i, buf => buf.store ((ptr : Int) - i - 1) [UInt8.ofNat i]
  | remaining + 1, ptr, i, buf => do
      let c ← buf.load ptr 1
      if c = [dot] then
        let buf ← buf.store ((ptr : Int) - i - 1) [UInt8.ofNat i]
        labelLoop remaining (ptr + 1) 0 buf
      else labelLoop remaining (ptr + 1) (i + 1) buf

/-- The bytes from the header to the answer count. The id is not converted. -/
def requestHead : List UInt8 := [0x01, 0x00, 0x01, 0x00, 0x00, 0x01, 0x00, 0x00]

/-- `dns_resolve_114` up to `sendto`: the bytes that are sent for a host without a NUL. -/
def dnsRequest (host_name : List UInt8) : Except Fault (List UInt8) := do
  let buf := blockOf (List.replicate 1024 0)
  let buf ← buf.store 0 requestHead
  let buf ← buf.store 13 (host_name ++ [0])
  let buf ← labelLoop host_name.length 13 0 buf
  let buf ← buf.store (16 + host_name.length : Nat) [0, 1]
  let buf ← buf.store (14 + host_name.length : Nat) [0, 1]
  buf.load 0 (18 + host_name.length)

/-- The text of a name. -/
def Name.text (name : Name) : List UInt8 := [dot].intercalate (name.labels.map Label.text)

/-- A name that a text can stand for: no label has a dot, and there is no pointer. -/
structure Name.Textual (name : Name) : Prop where
  pointer : name.pointer = none
  dots : ∀ label ∈ name.labels, dot ∉ label.text

theorem length_noRecords_lt : ([] : List Record).length < 2 ^ 16 := Nat.two_pow_pos 16

/-- A query for the IPv4 address of a name. A query has the format of a response without records. -/
def Name.request (name : Name) : Response where
  id := 0x0100
  flags := 0x0100
  questions := [⟨name, 1, 1⟩]
  answers := []
  authorities := []
  additionals := []
  questions_lt := Nat.one_lt_two_pow (Nat.succ_ne_zero 15)
  answers_lt := length_noRecords_lt
  authorities_lt := length_noRecords_lt
  additionals_lt := length_noRecords_lt

/-- A part of the host that can be a label. -/
def Fits (part : List UInt8) : Prop := 0 < part.length ∧ part.length ≤ 63

/-! ## Blocks with known contents -/

/-- Writing over a part of the contents. -/
theorem store_blockOf {front old back bytes : List UInt8} (h : bytes.length = old.length) :
    (blockOf (front ++ old ++ back)).store front.length bytes =
      .ok (blockOf (front ++ bytes ++ back)) := by
  rw [Block.store_eq _ _ _ (by simp [blockOf, h])]
  refine congrArg Except.ok ?_
  unfold Block.overwrite blockOf
  congr 1
  · simp [h]
  · funext i
    dsimp only
    by_cases hfront : front.length ≤ i
    · obtain ⟨k, rfl⟩ := Nat.exists_eq_add_of_le hfront
      rw [if_pos hfront, Nat.add_sub_cancel_left]
      by_cases hk : k < bytes.length
      · simp [List.getElem?_append, h ▸ hk, hk]
      · simp [List.getElem?_append, h ▸ hk, h]
    · simp only [List.getD_eq_getElem?_getD]
      rw [if_neg hfront, List.append_assoc, List.append_assoc,
        List.getElem?_append_left (by omega), List.getElem?_append_left (by omega)]

/-- Reading a part of the contents. -/
theorem load_blockOf (front part back : List UInt8) :
    (blockOf (front ++ part ++ back)).load front.length part.length = .ok part := by
  rw [Block.load_eq _ _ _ (by simp [blockOf])]
  refine congrArg Except.ok (List.ext_getElem (by simp) fun i hi hi' => ?_)
  simp [Block.window, blockOf, List.getElem?_append, hi']

/-! ## The loop over the host -/

/-- A label on the wire. -/
def labelBytes (part : List UInt8) : List UInt8 := UInt8.ofNat part.length :: part

/-- The length of a part is stored in front of it. -/
theorem store_length {front cur : List UInt8} {ptr : Nat}
    (hptr : ptr = front.length + 1 + cur.length) (c : UInt8) (text : List UInt8) :
    (blockOf (front ++ [c] ++ text)).store ((ptr : Int) - cur.length - 1)
        [UInt8.ofNat cur.length] =
      .ok (blockOf (front ++ [UInt8.ofNat cur.length] ++ text)) := by
  have hat : (ptr : Int) - cur.length - 1 = (front.length : Nat) := by omega
  rw [hat]
  exact store_blockOf rfl

/-- The loop puts the length of every part of the host in front of it. `c` is the byte in front of
the part that is being read, and `cur` is what was read of it. -/
theorem labelLoop_eq (front : List UInt8) {cur : List UInt8} (rest back : List UInt8) (c : UInt8)
    {ptr : Nat} (hcur : dot ∉ cur) (hptr : ptr = front.length + 1 + cur.length) :
    labelLoop rest.length ptr cur.length (blockOf (front ++ [c] ++ (cur ++ rest ++ back))) =
      .ok (blockOf (front ++ ((cur ++ rest).splitOn dot).flatMap labelBytes ++ back)) := by
  induction rest generalizing front cur c ptr with
  | nil =>
      rw [List.append_nil, List.splitOn_eq_singleton hcur, List.length_nil, labelLoop,
        store_length hptr]
      simp [labelBytes]
  | cons b rest ih =>
      have hload : (blockOf (front ++ [c] ++ (cur ++ b :: rest ++ back))).load ptr 1 =
          .ok [b] := by
        have h := load_blockOf (front ++ [c] ++ cur) [b] (rest ++ back)
        have hlength : (front ++ [c] ++ cur).length = ptr := by
          simp only [List.length_append, List.length_singleton, hptr]
        rw [hlength] at h
        simpa only [List.append_assoc, List.singleton_append, List.cons_append, List.nil_append,
          List.length_singleton] using h
      rw [List.length_cons, labelLoop, hload]
      show (if [b] = [dot] then _ else _) = _
      by_cases hdot : b = dot
      · subst hdot
        have hlength :
            ptr + 1 = (front ++ labelBytes cur).length + 1 + ([] : List UInt8).length := by
          simp only [labelBytes, List.length_append, List.length_cons, List.length_nil]
          omega
        have hnext := ih (front ++ labelBytes cur) dot List.not_mem_nil hlength
        rw [if_pos rfl, store_length hptr, List.splitOn_append_cons_self_of_not_mem hcur,
          List.flatMap_cons]
        show labelLoop rest.length (ptr + 1) 0 _ = _
        simpa only [labelBytes, List.append_assoc, List.singleton_append, List.cons_append,
          List.nil_append, List.length_nil] using hnext
      · have hcur' : dot ∉ cur ++ [b] := fun hmem =>
          (List.mem_append.mp hmem).elim hcur fun hb => hdot (List.mem_singleton.mp hb).symm
        have hlength : ptr + 1 = front.length + 1 + (cur ++ [b]).length := by
          simp only [List.length_append, List.length_singleton]
          omega
        have hnext := ih front c hcur' hlength
        rw [if_neg fun heq => hdot (List.cons.inj heq).1]
        simpa only [List.append_assoc, List.singleton_append, List.cons_append, List.nil_append,
          List.length_append, List.length_singleton] using hnext

/-- The bytes of a request: the parts of the host as labels, their end, the type and the class. -/
def requestBytes (host_name : List UInt8) : List UInt8 :=
  requestHead ++ [0, 0, 0, 0] ++ (host_name.splitOn dot).flatMap labelBytes ++ [0, 0, 1, 0, 1]

/-- The labels take the place of the host and of one byte in front of it. -/
theorem length_labels (host_name : List UInt8) :
    ((host_name.splitOn dot).flatMap labelBytes).length = host_name.length + 1 := by
  have hjoined : ∀ parts : List (List UInt8), parts ≠ [] →
      (parts.flatMap labelBytes).length = ([dot].intercalate parts).length + 1 := fun parts => by
    induction parts with
    | nil => exact fun h => absurd rfl h
    | cons part rest ih =>
        intro _
        by_cases hrest : rest = []
        · subst hrest
          simp [labelBytes]
        · rw [List.flatMap_cons, List.length_append, ih hrest,
            List.intercalate_cons_of_ne_nil hrest]
          simp only [labelBytes, List.length_cons, List.length_append, List.length_nil]
          omega
  rw [hjoined _ (List.splitOn_ne_nil dot host_name), List.intercalate_splitOn]

/-- Writing over a part of known contents, by its place. -/
theorem store_part (front old back : List UInt8) {contents bytes : List UInt8} {ofs : Nat}
    (hcontents : contents = front ++ old ++ back) (hofs : ofs = front.length)
    (hbytes : bytes.length = old.length) :
    (blockOf contents).store ofs bytes = .ok (blockOf (front ++ bytes ++ back)) := by
  rw [hcontents, hofs]
  exact store_blockOf hbytes

/-- A host that fits into the buffer. -/
theorem dnsRequest_eq {host_name : List UInt8} (h : host_name.length ≤ 1006) :
    dnsRequest host_name = .ok (requestBytes host_name) := by
  obtain ⟨room, hroom⟩ := Nat.exists_eq_add_of_le h
  have hlength := length_labels host_name
  have hloop : labelLoop host_name.length 13 0 (blockOf (requestHead ++ [0, 0, 0, 0] ++ [0] ++
      (host_name ++ ([0] ++ [0, 0] ++ [0, 0] ++ List.replicate room 0)))) =
      .ok (blockOf (requestHead ++ [0, 0, 0, 0] ++ (host_name.splitOn dot).flatMap labelBytes ++
        ([0] ++ [0, 0] ++ [0, 0] ++ List.replicate room 0))) :=
    labelLoop_eq (requestHead ++ [0, 0, 0, 0]) host_name _ 0 List.not_mem_nil rfl
  unfold requestBytes
  generalize (host_name.splitOn dot).flatMap labelBytes = labels at hlength hloop ⊢
  have hhead : (blockOf (List.replicate 1024 0)).store 0 requestHead =
      .ok (blockOf (requestHead ++ List.replicate 1016 0)) :=
    store_part [] (List.replicate 8 0) (List.replicate 1016 0) (List.replicate_add 8 1016 0) rfl rfl
  have hcopy : (blockOf (requestHead ++ List.replicate 1016 0)).store (13 : Nat)
      (host_name ++ [0]) = .ok (blockOf (requestHead ++ [0, 0, 0, 0] ++ [0] ++
        (host_name ++ ([0] ++ [0, 0] ++ [0, 0] ++ List.replicate room 0)))) := by
    have hroom' : 1016 = 5 + (host_name.length + 1) + (4 + room) := by omega
    have hzeros : requestHead ++ List.replicate 1016 (0 : UInt8) =
        requestHead ++ List.replicate 5 0 ++ List.replicate (host_name.length + 1) 0 ++
          List.replicate (4 + room) 0 := by
      rw [hroom', List.replicate_add, List.replicate_add, List.append_assoc, List.append_assoc,
        List.append_assoc]
    have hbytes : (host_name ++ [0]).length =
        (List.replicate (host_name.length + 1) (0 : UInt8)).length := by
      simp
    rw [store_part _ _ _ hzeros (show 13 = (requestHead ++ List.replicate 5 0).length from rfl)
      hbytes, List.replicate_add 4]
    simp [List.replicate_succ]
  have hclass : (blockOf (requestHead ++ [0, 0, 0, 0] ++ labels ++
      ([0] ++ [0, 0] ++ [0, 0] ++ List.replicate room 0))).store (16 + host_name.length : Nat)
      [0, 1] = .ok (blockOf (requestHead ++ [0, 0, 0, 0] ++ labels ++ [0] ++ [0, 0] ++ [0, 1] ++
          List.replicate room 0)) := by
    refine store_part _ [0, 0] _ ?_ ?_ rfl
    · simp only [List.append_assoc]
    · simp only [List.length_append, hlength, requestHead, List.length_cons, List.length_nil]
      omega
  have htype : (blockOf (requestHead ++ [0, 0, 0, 0] ++ labels ++ [0] ++ [0, 0] ++ [0, 1] ++
          List.replicate room 0)).store (14 + host_name.length : Nat) [0, 1] =
      .ok (blockOf (requestHead ++ [0, 0, 0, 0] ++ labels ++ [0] ++ [0, 1] ++
          ([0, 1] ++ List.replicate room 0))) := by
    refine store_part _ [0, 0] _ ?_ ?_ rfl
    · simp only [List.append_assoc]
    · simp only [List.length_append, hlength, requestHead, List.length_cons, List.length_nil]
      omega
  have hsend : (blockOf (requestHead ++ [0, 0, 0, 0] ++ labels ++ [0] ++ [0, 1] ++
      ([0, 1] ++ List.replicate room 0))).load 0 (18 + host_name.length) =
      .ok (requestHead ++ [0, 0, 0, 0] ++ labels ++ [0, 0, 1, 0, 1]) := by
    have hload := load_blockOf [] (requestHead ++ [0, 0, 0, 0] ++ labels ++ [0, 0, 1, 0, 1])
      (List.replicate room 0)
    have hall : (requestHead ++ [0, 0, 0, 0] ++ labels ++ [0, 0, 1, 0, 1]).length =
        18 + host_name.length := by
      simp only [List.length_append, hlength, requestHead, List.length_cons, List.length_nil]
      omega
    rw [hall] at hload
    simpa only [List.append_assoc, List.nil_append, List.cons_append, List.length_nil,
      Nat.cast_zero] using hload
  exact bind_eq_ok.mpr ⟨_, hhead, bind_eq_ok.mpr ⟨_, hcopy, bind_eq_ok.mpr ⟨_, hloop,
    bind_eq_ok.mpr ⟨_, hclass, bind_eq_ok.mpr ⟨_, htype, hsend⟩⟩⟩⟩⟩

/-- A checked store keeps the size. -/
theorem size_of_store {buf buf' : Block UInt8} {ofs : Int} {bytes : List UInt8}
    (h : buf.store ofs bytes = .ok buf') : buf'.size = buf.size := by
  unfold Block.store at h
  split at h
  · exact Except.ok.inj h ▸ rfl
  · exact nomatch h

/-- The loop keeps the size. -/
theorem size_of_labelLoop {remaining ptr i : Nat} {buf buf' : Block UInt8}
    (h : labelLoop remaining ptr i buf = .ok buf') : buf'.size = buf.size := by
  induction remaining generalizing ptr i buf with
  | zero => exact size_of_store h
  | succ remaining ih =>
      obtain ⟨c, -, h⟩ := bind_eq_ok.mp h
      split_ifs at h
      · obtain ⟨stored, hstore, h⟩ := bind_eq_ok.mp h
        exact (ih h).trans (size_of_store hstore)
      · exact ih h

/-- A request takes 18 bytes and the host. -/
theorem length_le_of_dnsRequest {host_name bytes : List UInt8}
    (h : dnsRequest host_name = .ok bytes) : host_name.length ≤ 1006 := by
  obtain ⟨head, hhead, h⟩ := bind_eq_ok.mp h
  obtain ⟨copied, hcopied, h⟩ := bind_eq_ok.mp h
  obtain ⟨labelled, hlabelled, h⟩ := bind_eq_ok.mp h
  obtain ⟨classed, hclassed, h⟩ := bind_eq_ok.mp h
  obtain ⟨typed, htyped, h⟩ := bind_eq_ok.mp h
  have hsize : typed.size = 1024 := by
    rw [size_of_store htyped, size_of_store hclassed, size_of_labelLoop hlabelled,
      size_of_store hcopied, size_of_store hhead]
    exact List.length_replicate
  have hbound := (Block.of_load_eq 0 h).1
  omega

/-! ## Names -/

/-- No part of a text has a separator. -/
theorem not_mem_of_mem_splitOn {text part : List UInt8} (h : part ∈ text.splitOn dot) :
    dot ∉ part := by
  induction text generalizing part with
  | nil =>
      rw [List.mem_singleton.mp h]
      exact List.not_mem_nil
  | cons c rest ih =>
      rw [List.splitOn_cons_eq_if_modifyHead] at h
      split_ifs at h with hc
      · rcases List.mem_cons.mp h with rfl | h
        · exact List.not_mem_nil
        · exact ih h
      · obtain ⟨first, more, hsplit⟩ := List.exists_cons_of_ne_nil (List.splitOn_ne_nil dot rest)
        rw [hsplit, List.modifyHead_cons] at h
        rw [hsplit] at ih
        rcases List.mem_cons.mp h with rfl | h
        · rw [List.mem_cons]
          rintro (rfl | hmem)
          · exact hc (beq_self_eq_true dot)
          · exact ih List.mem_cons_self hmem
        · exact ih (List.mem_cons_of_mem _ h)

/-- The text of labels without dots is taken apart into them. -/
theorem Name.Textual.splitOn_text {name : Name} (h : name.Textual) (hne : name.labels ≠ []) :
    name.text.splitOn dot = name.labels.map Label.text := by
  refine List.splitOn_intercalate dot (fun part hpart => ?_) (by simpa using hne)
  obtain ⟨label, hlabel, rfl⟩ := List.mem_map.mp hpart
  exact h.dots label hlabel

/-- The bytes of a query. -/
theorem Name.encode_request {name : Name} (h : name.pointer = none) :
    name.request.encode = requestHead ++ [0, 0, 0, 0] ++
      (name.labels.map Label.text).flatMap labelBytes ++ [0, 0, 1, 0, 1] := by
  have htail : name.tail = [0] := by rw [Name.tail, h]
  have hencode : name.encode =
      (name.labels.map Label.text).flatMap labelBytes ++ [0] := by
    rw [Name.encode, htail, List.flatMap_map]
    rfl
  have hone : be16 1 = [0, 1] := by decide
  have hquestion : (Question.mk name 1 1).encode =
      (name.labels.map Label.text).flatMap labelBytes ++ [0, 0, 1, 0, 1] := by
    rw [Question.encode, hencode, hone, List.append_assoc, List.append_assoc]
    rfl
  have hhead : be16 0x0100 ++ be16 0x0100 ++ be16 1 ++ be16 0 ++ be16 0 ++ be16 0 =
      requestHead ++ [0, 0, 0, 0] := by decide
  show be16 0x0100 ++ be16 0x0100 ++ be16 1 ++ be16 0 ++ be16 0 ++ be16 0 ++
      ((Question.mk name 1 1).encode ++ []) ++ [] = _
  rw [hhead, hquestion, List.append_nil, List.append_nil, ← List.append_assoc]

/-- A request is sent as a query for the IPv4 address of its host if and only if the host leaves
room for 18 more bytes in the buffer and its parts between the dots have from one to 63 bytes. -/
theorem dnsRequest_iff (host_name : List UInt8) :
    (∃ name : Name, name.Textual ∧ name.text = host_name ∧
        dnsRequest host_name = .ok name.request.encode) ↔
      host_name.length ≤ 1006 ∧ ∀ part ∈ host_name.splitOn dot, Fits part := by
  constructor
  · rintro ⟨name, htextual, rfl, hsent⟩
    have hlength := length_le_of_dnsRequest hsent
    refine ⟨hlength, ?_⟩
    by_cases hne : name.labels = []
    · -- a query for the root has one byte less
      rw [dnsRequest_eq hlength, Name.encode_request htextual.pointer, Name.text, hne] at hsent
      exact absurd (congrArg List.length (Except.ok.inj hsent)) (by decide)
    · rw [htextual.splitOn_text hne]
      intro part hpart
      obtain ⟨label, -, rfl⟩ := List.mem_map.mp hpart
      exact ⟨label.pos, label.length_le⟩
  · rintro ⟨hlength, hfits⟩
    have htexts : ((host_name.splitOn dot).pmap (fun part h => (⟨part, h.1, h.2⟩ : Label))
        hfits).map Label.text = host_name.splitOn dot := by
      rw [List.map_pmap]
      exact List.pmap_eq_self.mpr fun _ _ => rfl
    refine ⟨⟨(host_name.splitOn dot).pmap (fun part h => ⟨part, h.1, h.2⟩) hfits, none⟩,
      ⟨rfl, fun label hlabel => ?_⟩, ?_, ?_⟩
    · have hpart := List.mem_map_of_mem (f := Label.text) hlabel
      rw [htexts] at hpart
      exact not_mem_of_mem_splitOn hpart
    · rw [Name.text, htexts, List.intercalate_splitOn]
    · rw [Name.encode_request rfl, htexts]
      exact dnsRequest_eq hlength

end RVDataFusionServer.Dns
