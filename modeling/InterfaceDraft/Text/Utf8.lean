set_option autoImplicit false

namespace InterfaceDraft.Text

abbrev Bytes := List UInt8

def encodeChar (c : Char) : Bytes :=
  let n := c.toNat
  if n < 0x80 then [.ofNat n]
  else if n < 0x800 then [.ofNat (0xc0 + n / 64), .ofNat (0x80 + n % 64)]
  else if n < 0x10000 then
    [.ofNat (0xe0 + n / 4096), .ofNat (0x80 + n / 64 % 64), .ofNat (0x80 + n % 64)]
  else
    [.ofNat (0xf0 + n / 262144), .ofNat (0x80 + n / 4096 % 64), .ofNat (0x80 + n / 64 % 64),
      .ofNat (0x80 + n % 64)]

def encode (s : List Char) : Bytes :=
  s.flatMap encodeChar

def isContinuation (b : UInt8) : Bool :=
  0x80 ≤ b.toNat && b.toNat ≤ 0xbf

-- How many continuation bytes a lead byte announces, and the range that the first of them must lie
-- in. The narrower ranges exclude overlong forms, surrogates and code points past U+10FFFF.
def announced (lead : Nat) : Option (Nat × Nat × Nat) :=
  if 0xc2 ≤ lead && lead ≤ 0xdf then some (1, 0x80, 0xbf)
  else if lead == 0xe0 then some (2, 0xa0, 0xbf)
  else if lead == 0xed then some (2, 0x80, 0x9f)
  else if 0xe1 ≤ lead && lead ≤ 0xef then some (2, 0x80, 0xbf)
  else if lead == 0xf0 then some (3, 0x90, 0xbf)
  else if 0xf1 ≤ lead && lead ≤ 0xf3 then some (3, 0x80, 0xbf)
  else if lead == 0xf4 then some (3, 0x80, 0x8f)
  else none

-- `extra` is the number of bytes behind the first that belong to what stands at the front.
inductive Next where
  | char (c : Char) (extra : Nat)
  | broken (extra : Nat)
  deriving DecidableEq, Repr

-- The rest of a character whose code point so far is `code`, whose bytes so far are the first and
-- `extra` more, and that needs `count` more continuation bytes.
def continued : (count code extra : Nat) → Bytes → Next
  | 0, code, extra, _ => .char (.ofNat code) extra
  | _ + 1, _, extra, [] => .broken extra
  | count + 1, code, extra, b :: rest =>
    if isContinuation b then continued count (code * 64 + (b.toNat - 0x80)) (extra + 1) rest
    else .broken extra

def leadBits (count lead : Nat) : Nat :=
  match count with
  | 1 => lead - 0xc0
  | 2 => lead - 0xe0
  | _ => lead - 0xf0

def next (lead : UInt8) (rest : Bytes) : Next :=
  if lead.toNat < 0x80 then .char (.ofNat lead.toNat) 0
  else
    match announced lead.toNat, rest with
    | none, _ => .broken 0
    | some _, [] => .broken 0
    | some (count, low, high), b :: tail =>
      if low ≤ b.toNat && b.toNat ≤ high then
        continued (count - 1) (leadBits count lead.toNat * 64 + (b.toNat - 0x80)) 1 tail
      else .broken 0

-- The first `skip` bytes belong to a character that was just read.
def decodeFrom : (skip : Nat) → Bytes → Option (List Char)
  | _, [] => some []
  | skip + 1, _ :: tail => decodeFrom skip tail
  | 0, lead :: tail =>
    match next lead tail with
    | .char c extra => (decodeFrom extra tail).map (c :: ·)
    | .broken _ => none

theorem decodeFrom_eq_drop (skip : Nat) (s : Bytes) :
    decodeFrom skip s = decodeFrom 0 (s.drop skip) := by
  induction s generalizing skip with
  | nil => simp [decodeFrom]
  | cons b tail ih =>
    cases skip with
    | zero => rfl
    | succ skip => simp [decodeFrom, ih skip]

def decode? (s : Bytes) : Option (List Char) :=
  decodeFrom 0 s

def decodeLossyFrom : (skip : Nat) → Bytes → List Char
  | _, [] => []
  | skip + 1, _ :: tail => decodeLossyFrom skip tail
  | 0, lead :: tail =>
    match next lead tail with
    | .char c extra => c :: decodeLossyFrom extra tail
    | .broken extra => '\ufffd' :: decodeLossyFrom extra tail

def decodeLossy (s : Bytes) : List Char :=
  decodeLossyFrom 0 s

def bytesOf (s : String) : Bytes :=
  encode s.toList

def shown (s : Bytes) : String :=
  String.ofList (decodeLossy s)

@[simp] theorem encode_nil : encode [] = [] := rfl

@[simp] theorem encode_cons (c : Char) (s : List Char) : encode (c :: s) = encodeChar c ++ encode s :=
  rfl

@[simp] theorem encode_append (s t : List Char) : encode (s ++ t) = encode s ++ encode t := by
  simp [encode]

end InterfaceDraft.Text
