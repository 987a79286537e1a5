import Mathlib.Data.List.Sort
import Mathlib.Tactic.SplitIfs
import RVDataFusionServer.EocCom.DnsMessage

/-!
# The parser of DNS responses

`dns_data_parse` of `DNSServer.cpp` lays the struct `DNS_REQ_DATA` over every byte of a response and
takes what looks like an A record for one. `dnsDataParse_exact_iff` says what comes of that: the
struct reaches behind the response, and with readable bytes there the addresses are those of the
A records exactly if nothing else in the response looks like one.
-/

namespace RVDataFusionServer.Dns

open Library

/-- The turn of the loop at byte `i`. The comparisons of two-byte fields are those of the bytes
`00 01` and `00 04`, read by a little-endian processor. -/
def parseAt (dns_buf : Block UInt8) (dns_ip_str_all : List (List UInt8)) (i : Nat) :
    Except Fault (List (List UInt8)) := do
  let data_type ← dns_buf.load (i + 2) 2
  if ofLE data_type = 0x0100 then
    let data_class ← dns_buf.load (i + 4) 2
    if ofLE data_class = 0x0100 then
      let data_len ← dns_buf.load (i + 10) 2
      if ofLE data_len = 0x0400 then
        let data_buf ← dns_buf.load (i + 12) 4
        pure (dns_ip_str_all ++ [addressText data_buf])
      else pure dns_ip_str_all
    else pure dns_ip_str_all
  else pure dns_ip_str_all

/-- `dns_data_parse`, without its logs. -/
def dnsDataParse (dns_buf : Block UInt8) (dns_buf_len : Nat)
    (dns_ip_str_all : List (List UInt8)) : Except Fault (List (List UInt8)) :=
  (List.range dns_buf_len).foldlM (parseAt dns_buf) dns_ip_str_all

/-- A block of just these bytes. -/
def blockOf (bytes : List UInt8) : Block UInt8 := ⟨bytes.length, fun i => bytes.getD i 0⟩

/-- The struct at byte `i` looks like an A record. -/
def Matches (dns_buf : Block UInt8) (i : Nat) : Prop :=
  dns_buf.window (i + 2) 2 = [0, 1] ∧ dns_buf.window (i + 4) 2 = [0, 1] ∧
    dns_buf.window (i + 10) 2 = [0, 4]

instance decidableMatches (dns_buf : Block UInt8) (i : Nat) : Decidable (Matches dns_buf i) :=
  inferInstanceAs (Decidable (_ ∧ _ ∧ _))

/-- The bytes at which the struct looks like an A record. -/
def looking (dns_buf : Block UInt8) (len : Nat) : List Nat :=
  (List.range len).filter fun i => Matches dns_buf i

/-- The parser gives the addresses of the A records and reads no other bytes than those of the
response. -/
def ParsesExactly (response : Response) (out : List (List UInt8)) : Prop :=
  dnsDataParse (blockOf response.encode) response.encode.length out =
    .ok (out ++ response.addresses)

/-! ## The loop -/

/-- A two-byte window as a number. -/
theorem ofLE_window_iff (buf : Block UInt8) (ofs : Nat) {n : Nat} (hn : n < 256 ^ 2) :
    ofLE (buf.window ofs 2) = n ↔ buf.window ofs 2 = toLE 2 n := by
  constructor
  · intro h
    have hback := toLE_ofLE (buf.window ofs 2)
    rw [Block.length_window, h] at hback
    exact hback.symm
  · intro h
    rw [h, ofLE_toLE 2 hn]

/-- A turn with readable bytes. -/
theorem parseAt_eq (buf : Block UInt8) (out : List (List UInt8)) {i : Nat}
    (h : i + 16 ≤ buf.size) :
    parseAt buf out i =
      .ok (if Matches buf i then out ++ [addressText (buf.window (i + 12) 4)] else out) := by
  have htype := ofLE_window_iff buf (i + 2) (show 0x0100 < 256 ^ 2 by decide)
  have hclass := ofLE_window_iff buf (i + 4) (show 0x0100 < 256 ^ 2 by decide)
  have hlen := ofLE_window_iff buf (i + 10) (show 0x0400 < 256 ^ 2 by decide)
  have hloadType : buf.load ((i : Int) + 2) 2 = .ok (buf.window (i + 2) 2) :=
    buf.load_eq (i + 2) 2 (by omega)
  have hloadClass : buf.load ((i : Int) + 4) 2 = .ok (buf.window (i + 4) 2) :=
    buf.load_eq (i + 4) 2 (by omega)
  have hloadLen : buf.load ((i : Int) + 10) 2 = .ok (buf.window (i + 10) 2) :=
    buf.load_eq (i + 10) 2 (by omega)
  have hloadData : buf.load ((i : Int) + 12) 4 = .ok (buf.window (i + 12) 4) :=
    buf.load_eq (i + 12) 4 (by omega)
  rw [parseAt, hloadType, hloadClass, hloadLen, hloadData]
  show (if ofLE (buf.window (i + 2) 2) = 0x0100 then
      if ofLE (buf.window (i + 4) 2) = 0x0100 then
        if ofLE (buf.window (i + 10) 2) = 0x0400 then
          Except.ok (out ++ [addressText (buf.window (i + 12) 4)])
        else .ok out
      else .ok out
    else .ok out) = _
  by_cases hm : Matches buf i
  · rw [if_pos (htype.mpr hm.1), if_pos (hclass.mpr hm.2.1), if_pos (hlen.mpr hm.2.2), if_pos hm]
  · rw [if_neg hm]
    split_ifs with h1 h2 h3
    · exact absurd ⟨htype.mp h1, hclass.mp h2, hlen.mp h3⟩ hm
    · rfl
    · rfl
    · rfl

/-- The parser with readable bytes behind the response. -/
theorem dnsDataParse_eq (buf : Block UInt8) {len : Nat} (h : len + 15 ≤ buf.size)
    (out : List (List UInt8)) :
    dnsDataParse buf len out =
      .ok (out ++ (looking buf len).map fun i => addressText (buf.window (i + 12) 4)) := by
  have hloop (turns : List Nat) (hturns : ∀ i ∈ turns, i < len) (out : List (List UInt8)) :
      turns.foldlM (parseAt buf) out =
        .ok (out ++ (turns.filter fun i => Matches buf i).map
          fun i => addressText (buf.window (i + 12) 4)) := by
    induction turns generalizing out with
    | nil =>
        rw [List.filter_nil, List.map_nil, List.append_nil]
        rfl
    | cons i turns ih =>
        have hi := hturns i List.mem_cons_self
        have hrest := ih (fun j hj => hturns j (List.mem_cons_of_mem i hj))
        rw [List.foldlM_cons, parseAt_eq buf out (by omega)]
        show turns.foldlM (parseAt buf) _ = _
        rw [hrest]
        by_cases hm : Matches buf i
        · simp only [hm, if_true, List.filter_cons, decide_true, List.map_cons,
            List.append_assoc, List.singleton_append]
        · simp only [hm, if_false, List.filter_cons, decide_false, Bool.false_eq_true]
  exact hloop (List.range len) (fun _ => List.mem_range.mp) out

/-- The struct at the last byte reaches behind it. -/
theorem dnsDataParse_ne_ok (buf : Block UInt8) {len : Nat} (hlen : len = buf.size)
    (hpos : 0 < len) (out result : List (List UInt8)) : dnsDataParse buf len out ≠ .ok result := by
  obtain ⟨last, rfl⟩ : ∃ last, len = last + 1 := ⟨len - 1, by omega⟩
  intro h
  rw [dnsDataParse, List.range_succ, List.foldlM_append] at h
  obtain ⟨before, -, h⟩ := bind_eq_ok.mp h
  rw [List.foldlM_cons] at h
  obtain ⟨after, hafter, -⟩ := bind_eq_ok.mp h
  obtain ⟨data_type, hload, -⟩ := bind_eq_ok.mp hafter
  have hinside := (Block.of_load_eq (last + 2) hload).1
  omega

/-! ## The A records -/

/-- A part of a window. -/
theorem window_part {buf : Block UInt8} {pos n : Nat} {front part back : List UInt8}
    (h : buf.window pos n = front ++ part ++ back) :
    buf.window (pos + front.length) part.length = part := by
  have hlength := congrArg List.length h
  rw [Block.length_window, List.length_append, List.length_append] at hlength
  rw [hlength, Block.window_add, Block.window_add] at h
  have hfront := List.append_inj_left h (by simp)
  exact List.append_inj_right hfront (by simp)

/-- The struct fits an A record, and shows its data. -/
theorem record_matches {buf : Block UInt8} {pos : Nat} (hpos : 2 ≤ pos) {record : Record}
    (haddress : record.IsAddress)
    (h : buf.window pos record.encode.length = record.encode) :
    Matches buf (pos + record.name.encode.length - 2) ∧
      buf.window (pos + record.name.encode.length - 2 + 12) 4 = record.data := by
  obtain ⟨htype, hclass, hlength⟩ := haddress
  set name := record.name.encode
  set ttl := be32 record.ttl
  have hencode : record.encode =
      name ++ [0, 1] ++ ([0, 1] ++ (ttl ++ ([0, 4] ++ record.data))) := by
    rw [Record.encode, Record.fields, htype, hclass, hlength]
    simp only [List.append_assoc]
    rfl
  rw [hencode] at h
  have hwindow {front part back : List UInt8} {k : Nat}
      (hk : k = pos + front.length)
      (hparts : name ++ [0, 1] ++ ([0, 1] ++ (ttl ++ ([0, 4] ++ record.data))) =
        front ++ part ++ back) :
      buf.window k part.length = part := by
    rw [hk]
    exact window_part (h.trans hparts)
  have hname : 0 < name.length := record.name.encode_length_pos
  have hfour : ttl.length = 4 := length_be32 _
  refine ⟨⟨hwindow (by omega) rfl, ?_, ?_⟩, ?_⟩
  · exact @hwindow (name ++ [0, 1]) [0, 1] (ttl ++ ([0, 4] ++ record.data)) _
      (by rw [List.length_append, List.length_cons, List.length_singleton]; omega)
      (by simp only [List.append_assoc])
  · exact @hwindow (name ++ [0, 1] ++ [0, 1] ++ ttl) [0, 4] record.data _
      (by simp only [List.length_append, List.length_cons, List.length_nil]; omega)
      (by simp only [List.append_assoc])
  · have hdata := @hwindow (name ++ [0, 1] ++ [0, 1] ++ ttl ++ [0, 4]) record.data []
      (pos + name.length - 2 + 12)
      (by simp only [List.length_append, List.length_cons, List.length_nil]; omega)
      (by simp only [List.append_assoc, List.append_nil])
    rwa [hlength] at hdata

/-- What the parser shows of the place of an A record. -/
structure Shown (buf : Block UInt8) (first last i : Nat) : Prop where
  first_le : first ≤ i + 1
  lt_last : i < last
  looks : Matches buf i

/-- The places of the A records among records that start at `pos`. -/
theorem offsetsFrom_spec {buf : Block UInt8} {records : List Record} {pos : Nat} (hpos : 2 ≤ pos)
    (h : buf.window pos (records.flatMap Record.encode).length =
      records.flatMap Record.encode) :
    (∀ i ∈ Response.offsetsFrom pos records,
      Shown buf pos (pos + (records.flatMap Record.encode).length) i) ∧
    (Response.offsetsFrom pos records).Pairwise (· ≤ ·) ∧
    (Response.offsetsFrom pos records).Nodup ∧
    (Response.offsetsFrom pos records).map (fun i => addressText (buf.window (i + 12) 4)) =
      (records.filter fun record => record.IsAddress).map fun record =>
        addressText record.data := by
  induction records generalizing pos with
  | nil => exact ⟨fun _ hi => absurd hi List.not_mem_nil, List.Pairwise.nil, List.nodup_nil, rfl⟩
  | cons record rest ih =>
      have hname := record.name.encode_length_pos
      have hrecord := record.length_encode
      rw [List.flatMap_cons, List.length_append, Block.window_add] at h
      have hfirst := List.append_inj_left h (by simp)
      have hrest := List.append_inj_right h (by simp)
      obtain ⟨hshown, hsorted, hnodup, hmap⟩ := ih (by omega) hrest
      rw [List.flatMap_cons, List.length_append]
      by_cases haddress : record.IsAddress
      · obtain ⟨hmatches, hdata⟩ := record_matches hpos haddress hfirst
        rw [Response.offsetsFrom, if_pos haddress, List.forall_mem_cons, List.pairwise_cons,
          List.nodup_cons, List.map_cons, hdata, hmap, List.filter_cons_of_pos (by simpa)]
        refine ⟨⟨⟨by omega, by omega, hmatches⟩, fun i hi => ?_⟩, ⟨fun i hi => ?_, hsorted⟩,
          ⟨fun hi => ?_, hnodup⟩, rfl⟩
        · obtain ⟨hle, hlt, hlooks⟩ := hshown i hi
          exact ⟨by omega, by omega, hlooks⟩
        · have hle := (hshown i hi).first_le
          omega
        · have hle := (hshown _ hi).first_le
          omega
      · rw [Response.offsetsFrom, if_neg haddress, List.filter_cons_of_neg (by simpa)]
        refine ⟨fun i hi => ?_, hsorted, hnodup, hmap⟩
        obtain ⟨hle, hlt, hlooks⟩ := hshown i hi
        exact ⟨by omega, by omega, hlooks⟩

/-- The bytes of the records. -/
theorem window_records {buf : Block UInt8} {response : Response}
    (h : buf.window 0 response.encode.length = response.encode) :
    buf.window response.front.length (response.records.flatMap Record.encode).length =
      response.records.flatMap Record.encode := by
  have hparts : buf.window 0 response.encode.length =
      response.front ++ response.records.flatMap Record.encode ++ [] := by
    rw [h, List.append_nil]
    rfl
  have hwindow := window_part hparts
  rwa [Nat.zero_add] at hwindow

theorem mem_looking {buf : Block UInt8} {len i : Nat} :
    i ∈ looking buf len ↔ i < len ∧ Matches buf i := by
  rw [looking, List.mem_filter, List.mem_range, decide_eq_true_iff]

/-- Places in ascending order that all look like A records. -/
theorem sublist_looking {buf : Block UInt8} {len : Nat} {places : List Nat}
    (hsorted : places.Pairwise (· ≤ ·)) (hnodup : places.Nodup)
    (hplaces : ∀ i ∈ places, i < len ∧ Matches buf i) : places.Sublist (looking buf len) :=
  List.sublist_of_subperm_of_pairwise
    (List.subperm_of_subset hnodup fun i hi => mem_looking.mpr (hplaces i hi)) hsorted
    (List.pairwise_le_range.sublist List.filter_sublist)

/-- With readable bytes behind the response, the addresses are those of the A records exactly if
nothing else looks like an A record. -/
theorem dnsDataParse_addresses_iff {buf : Block UInt8} {response : Response}
    (h : buf.window 0 response.encode.length = response.encode)
    (hsize : response.encode.length + 15 ≤ buf.size) (out : List (List UInt8)) :
    dnsDataParse buf response.encode.length out = .ok (out ++ response.addresses) ↔
      ∀ i < response.encode.length, Matches buf i → i ∈ response.addressOffsets := by
  have hfront := response.le_length_front
  have htotal : response.encode.length =
      response.front.length + (response.records.flatMap Record.encode).length :=
    List.length_append
  obtain ⟨hshown, hsorted, hnodup, hmap⟩ := offsetsFrom_spec (by omega) (window_records h)
  have hsublist : response.addressOffsets.Sublist (looking buf response.encode.length) := by
    apply sublist_looking hsorted hnodup
    intro i hi
    obtain ⟨-, hlt, hlooks⟩ := hshown i hi
    exact ⟨by omega, hlooks⟩
  rw [dnsDataParse_eq buf hsize, Except.ok.injEq, List.append_cancel_left_eq,
    show response.addresses = _ from hmap.symm]
  constructor
  · intro heq i hi hlooks
    have hlength := congrArg List.length heq
    rw [List.length_map, List.length_map] at hlength
    rw [hsublist.eq_of_length hlength.symm]
    exact mem_looking.mpr ⟨hi, hlooks⟩
  · intro honly
    have hlength : (looking buf response.encode.length).length ≤ response.addressOffsets.length :=
      (List.subperm_of_subset (List.nodup_range.sublist List.filter_sublist) fun i hi =>
        honly i (mem_looking.mp hi).1 (mem_looking.mp hi).2).length_le
    exact congrArg _ (hsublist.eq_of_length_le hlength).symm

/-- The parser reads behind every response, whatever is in it. With readable bytes there, it gives
the addresses of the A records exactly if nothing else looks like an A record. -/
theorem dnsDataParse_exact_iff (response : Response) (out : List (List UInt8)) :
    ¬ ParsesExactly response out ∧
      ∀ buf : Block UInt8, buf.window 0 response.encode.length = response.encode →
        response.encode.length + 15 ≤ buf.size →
          (dnsDataParse buf response.encode.length out = .ok (out ++ response.addresses) ↔
            ∀ i < response.encode.length, Matches buf i → i ∈ response.addressOffsets) := by
  constructor
  · have hfront := response.le_length_front
    have htotal : response.encode.length =
        response.front.length + (response.records.flatMap Record.encode).length :=
      List.length_append
    have hpos : 0 < response.encode.length := by omega
    exact dnsDataParse_ne_ok (blockOf response.encode) rfl hpos out _
  · intro buf h hsize
    exact dnsDataParse_addresses_iff h hsize out

/-- A response with one TXT record, whose text imitates an A record. -/
def imitation : Response where
  id := 0x0100
  flags := 0x8180
  questions := []
  answers :=
    [{ name := ⟨[], none⟩
       rtype := 16
       rclass := 1
       ttl := 60
       data := [14, 0, 1, 0, 1, 0, 0, 0, 60, 0, 4, 9, 9, 9, 9]
       length_lt := by decide }]
  authorities := []
  additionals := []
  questions_lt := by decide
  answers_lt := by decide
  authorities_lt := by decide
  additionals_lt := by decide

/-- There is no address in it. The parser reads behind its bytes, and with zeros there it finds
9.9.9.9. -/
theorem dnsDataParse_imitation :
    ¬ ParsesExactly imitation [] ∧ imitation.addresses = [] ∧
      dnsDataParse ⟨imitation.encode.length + 15, (blockOf imitation.encode).data⟩
        imitation.encode.length [] = .ok [addressText [9, 9, 9, 9]] := by
  refine ⟨?_, rfl, ?_⟩
  · exact dnsDataParse_ne_ok (blockOf imitation.encode) rfl (by decide) [] _
  · decide +kernel

end RVDataFusionServer.Dns
