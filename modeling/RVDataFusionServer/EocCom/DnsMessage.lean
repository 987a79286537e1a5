import RVDataFusionServer.Library.LittleEndian
import RVDataFusionServer.Os.IpAddress

/-!
# DNS responses

What a response consists of, with its bytes: a header, questions and records, whose names are labels
and pointers and whose numbers are big-endian. A response knows its IPv4 addresses and where their
records have their types (`addressOffsets`), in the coordinates of `DNS_REQ_DATA`, which takes every
name for a pointer of two bytes.
-/

namespace RVDataFusionServer.Dns

open Library

/-- A 16-bit number on the wire. -/
def be16 (n : UInt16) : List UInt8 := (toLE 2 n.toNat).reverse

/-- A 32-bit number on the wire. -/
def be32 (n : UInt32) : List UInt8 := (toLE 4 n.toNat).reverse

@[simp] theorem length_be16 (n : UInt16) : (be16 n).length = 2 := by
  rw [be16, List.length_reverse, length_toLE]

@[simp] theorem length_be32 (n : UInt32) : (be32 n).length = 4 := by
  rw [be32, List.length_reverse, length_toLE]

/-- A label of a name. -/
structure Label where
  text : List UInt8
  pos : 0 < text.length
  length_le : text.length ≤ 63

/-- A name: labels, and either the root or a pointer to a place in the message. That a name takes
255 bytes at most is not asked for. -/
structure Name where
  labels : List Label
  pointer : Option (Fin (2 ^ 14))

/-- The end of a name. -/
def Name.tail (name : Name) : List UInt8 :=
  match name.pointer with
  | none => [0]
  | some place => [0xC0 + UInt8.ofNat (place / 256), UInt8.ofNat place]

/-- The bytes of a name. -/
def Name.encode (name : Name) : List UInt8 :=
  name.labels.flatMap (fun label => UInt8.ofNat label.text.length :: label.text) ++ name.tail

/-- A question. -/
structure Question where
  name : Name
  qtype : UInt16
  qclass : UInt16

/-- The bytes of a question. -/
def Question.encode (question : Question) : List UInt8 :=
  question.name.encode ++ be16 question.qtype ++ be16 question.qclass

/-- A resource record. -/
structure Record where
  name : Name
  rtype : UInt16
  rclass : UInt16
  ttl : UInt32
  data : List UInt8
  length_lt : data.length < 2 ^ 16

namespace Record

/-- What is behind the name and in front of the data. -/
def fields (record : Record) : List UInt8 :=
  be16 record.rtype ++ be16 record.rclass ++ be32 record.ttl ++
    be16 (UInt16.ofNat record.data.length)

/-- The bytes of a record. -/
def encode (record : Record) : List UInt8 := record.name.encode ++ record.fields ++ record.data

/-- An A record: class IN, and data of four bytes. -/
def IsAddress (record : Record) : Prop :=
  record.rtype = 1 ∧ record.rclass = 1 ∧ record.data.length = 4

instance decidableIsAddress (record : Record) : Decidable record.IsAddress :=
  inferInstanceAs (Decidable (_ ∧ _ ∧ _))

end Record

/-- The text of four bytes. -/
def addressText (data : List UInt8) : List UInt8 :=
  dotted (data.getD 0 0).toNat (data.getD 1 0).toNat (data.getD 2 0).toNat (data.getD 3 0).toNat

/-- A response. The records of its three sections are counted by 16-bit numbers. -/
structure Response where
  id : UInt16
  flags : UInt16
  questions : List Question
  answers : List Record
  authorities : List Record
  additionals : List Record
  questions_lt : questions.length < 2 ^ 16
  answers_lt : answers.length < 2 ^ 16
  authorities_lt : authorities.length < 2 ^ 16
  additionals_lt : additionals.length < 2 ^ 16

namespace Response

/-- All records, in the order of the message. -/
def records (response : Response) : List Record :=
  response.answers ++ response.authorities ++ response.additionals

/-- The bytes in front of the records. -/
def front (response : Response) : List UInt8 :=
  be16 response.id ++ be16 response.flags ++ be16 (UInt16.ofNat response.questions.length) ++
    be16 (UInt16.ofNat response.answers.length) ++
    be16 (UInt16.ofNat response.authorities.length) ++
    be16 (UInt16.ofNat response.additionals.length) ++
    response.questions.flatMap Question.encode

/-- The bytes of a response. -/
def encode (response : Response) : List UInt8 :=
  response.front ++ response.records.flatMap Record.encode

/-- The dotted addresses of the A records, in order. -/
def addresses (response : Response) : List (List UInt8) :=
  (response.records.filter fun record => record.IsAddress).map fun record =>
    addressText record.data

/-- Two bytes in front of the types of the A records among records that start at `pos`. -/
def offsetsFrom : Nat → List Record → List Nat
  | _, [] => []
  | pos, record :: rest =>
      if record.IsAddress then
        (pos + record.name.encode.length - 2) :: offsetsFrom (pos + record.encode.length) rest
      else offsetsFrom (pos + record.encode.length) rest

/-- Two bytes in front of the types of the A records. -/
def addressOffsets (response : Response) : List Nat :=
  offsetsFrom response.front.length response.records

end Response

/-! ## Lengths -/

theorem Name.encode_length_pos (name : Name) : 0 < name.encode.length := by
  have htail : 0 < name.tail.length := by
    rw [Name.tail]
    split <;> simp
  rw [Name.encode, List.length_append]
  omega

@[simp] theorem Record.length_fields (record : Record) : record.fields.length = 10 := by
  simp [Record.fields]

theorem Record.length_encode (record : Record) :
    record.encode.length = record.name.encode.length + 10 + record.data.length := by
  rw [Record.encode, List.length_append, List.length_append, Record.length_fields]

/-- The header has twelve bytes. -/
theorem Response.le_length_front (response : Response) : 12 ≤ response.front.length := by
  simp only [Response.front, List.length_append, length_be16]
  omega

end RVDataFusionServer.Dns
