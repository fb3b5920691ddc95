/-!
# DER-encoded integer pairs

The signature form `SEQUENCE { INTEGER r, INTEGER s }` read strictly:

* a tag is one byte, and a tag whose low five bits are all set (a multi-byte tag) is refused;
* a length is one byte below `0x80`, or `0x81 L` with `L ≥ 128`, or `0x82 H L` with
  `256·H + L ≥ 256`; other long forms are refused;
* an integer is non-empty, is not negative, has no needless leading zero, and is not zero;
* the sequence's content is exactly the two integers, and the input is exactly the sequence.

Each integer is returned without its sign byte.
-/

namespace KeyCustody.Der

/-- A tag, its content and the bytes after it. -/
def element (bs : List UInt8) : Option (UInt8 × List UInt8 × List UInt8) :=
  match bs with
  | tag :: rest =>
    if tag &&& 0x1F = 0x1F then none
    else
      let body : Option (Nat × List UInt8) :=
        match rest with
        | l :: more =>
          if l < 0x80 then some (l.toNat, more)
          else if l = 0x81 then
            match more with
            | a :: more => if a.toNat ≥ 128 then some (a.toNat, more) else none
            | [] => none
          else if l = 0x82 then
            match more with
            | a :: b :: more =>
              let n := 256 * a.toNat + b.toNat
              if n ≥ 256 then some (n, more) else none
            | _ => none
          else none
        | [] => none
      body.bind fun (n, more) =>
        if more.length < n then none else some (tag, more.take n, more.drop n)
  | [] => none

/-- The magnitude of a positive DER integer, without a sign byte. -/
def positive (content : List UInt8) : Option (List UInt8) :=
  match content with
  | [] => none
  | 0 :: [] => none
  | 0 :: second :: rest => if second &&& 0x80 = 0x80 then some (second :: rest) else none
  | first :: rest => if first &&& 0x80 = 0 then some (first :: rest) else none

/-- An integer element and the bytes after it. -/
def integer (bs : List UInt8) : Option (List UInt8 × List UInt8) :=
  (element bs).bind fun (tag, content, rest) =>
    if tag = 0x02 then (positive content).map fun v => (v, rest) else none

/-- The two integers of a DER signature. -/
def pair (bs : List UInt8) : Option (List UInt8 × List UInt8) :=
  (element bs).bind fun (tag, content, rest) =>
    if tag ≠ 0x30 ∨ rest ≠ [] then none
    else
      (integer content).bind fun (r, content) =>
        (integer content).bind fun (s, content) =>
          if content = [] then some (r, s) else none

end KeyCustody.Der
