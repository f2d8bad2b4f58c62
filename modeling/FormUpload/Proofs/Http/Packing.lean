import FormUpload.Http.Exchange

/-!
# What is packed can be opened

`pack` writes octets into a packed body: one block, in which every octet stands by its
codeword in the fixed code.  The client opens such a body and finds what was packed
(`unpack?_pack`).

    number?_append         a number is read as it was written
    fixedSymbols_codeword  a symbol of the fixed code is read from its codeword
    symbols?_literals      octets are read up to the end of their block
    inflate?_deflate       a block is read, and what follows begins at an octet
-/

namespace FormUpload.Http

open FormUpload.Text

namespace Deflate

/-! ## §1. Numbers and octets. -/

/-- So many bits of a number, the low one first. -/
def numberBits : (width : Nat) → Nat → List Bool
  | 0, _ => []
  | width + 1, n => (n % 2 == 1) :: numberBits width (n / 2)

@[simp] theorem length_numberBits (width n : Nat) : (numberBits width n).length = width := by
  induction width generalizing n with
  | zero => rfl
  | succ width ih => rw [numberBits, List.length_cons, ih]

/-- **A number is read as it was written**, whatever follows. -/
theorem number?_append (width n : Nat) (hn : n < Nat.pow 2 width) (s : List Bool) :
    number? width (numberBits width n ++ s) = some (n, s) := by
  induction width generalizing n with
  | zero =>
      have hzero : n = 0 := Nat.lt_one_iff.mp hn
      rw [hzero]
      rfl
  | succ width ih =>
      have hhalf : n / 2 < Nat.pow 2 width := by
        rw [Nat.pow_eq] at hn ⊢
        omega
      have hbit : (n % 2 == 1).toNat + 2 * (n / 2) = n := by
        rcases Nat.mod_two_eq_zero_or_one n with h | h
        · rw [h]
          show 0 + 2 * (n / 2) = n
          omega
        · rw [h]
          show 1 + 2 * (n / 2) = n
          omega
      rw [numberBits, List.cons_append, number?, ih (n / 2) hhalf]
      show some ((n % 2 == 1).toNat + 2 * (n / 2), s) = some (n, s)
      rw [hbit]

/-- The octet that eight bits make. -/
def octetOf (s : List Bool) : UInt8 := UInt8.ofNat (s.foldr (fun b n => b.toNat + 2 * n) 0)

/-- The octets of some bits; an octet that is not whole is left out. -/
def octetsOf : List Bool → Bytes
  | a :: b :: c :: d :: e :: f :: g :: h :: s => octetOf [a, b, c, d, e, f, g, h] :: octetsOf s
  | _ => []

theorem octetBits_octetOf (a b c d e f g h : Bool) :
    octetBits (octetOf [a, b, c, d, e, f, g, h]) = [a, b, c, d, e, f, g, h] := by
  decide +revert +kernel

/-- **Bits that make whole octets can be read from them.** -/
theorem bitsOf_octetsOf (s : List Bool) (hs : s.length % 8 = 0) : bitsOf (octetsOf s) = s := by
  fun_induction octetsOf s with
  | case1 a b c d e f g h s ih =>
      have hrest : s.length % 8 = 0 := by
        simp only [List.length_cons] at hs
        omega
      show octetBits (octetOf [a, b, c, d, e, f, g, h]) ++ bitsOf (octetsOf s) = _
      rw [octetBits_octetOf, ih hrest]
      rfl
  | case2 s hshort =>
      match s, hshort, hs with
      | [], _, _ => rfl
      | a :: b :: c :: d :: e :: f :: g :: h :: s, hshort, _ =>
          exact absurd rfl (hshort a b c d e f g h s)

/-! ## §2. The fixed code. -/

/-- **The bits of a symbol tell it, whatever follows.** -/
theorem Code.symbol?_append (code : Code) (place : Nat) (w s : List Bool) (symbol : Nat)
    (h : code.symbol? place w = some (symbol, [])) :
    code.symbol? place (w ++ s) = some (symbol, s) := by
  induction code generalizing place w with
  | nil => cases h
  | cons symbols longer ih =>
      cases w with
      | nil => cases h
      | cons b w =>
          rw [Code.symbol?] at h
          rw [List.cons_append, Code.symbol?]
          cases hsymbol : symbols[2 * place + b.toNat]? with
          | none =>
              simp only [hsymbol] at h ⊢
              exact ih _ w h
          | some found =>
              simp only [hsymbol] at h ⊢
              cases h
              rfl

/-- The codeword of a symbol in the fixed code, up to the end of block; the high bit goes
first. -/
def codeword (symbol : Nat) : List Bool :=
  if symbol < 144 then (numberBits 8 (48 + symbol)).reverse
  else if symbol < 256 then (numberBits 9 (256 + symbol)).reverse
  else (numberBits 7 (symbol - 256)).reverse

/-- **A symbol of the fixed code is read from its codeword.** -/
theorem fixedSymbols_codeword : ∀ symbol ≤ endOfBlock,
    fixedSymbols.symbol? 0 (codeword symbol) = some (symbol, []) := by
  decide +kernel

/-- Octets by their codewords. -/
def literals (s : Bytes) : List Bool := s.flatMap fun b => codeword b.toNat

/-- **Octets are read from their codewords**, up to the end of their block. -/
theorem symbols?_literals (distances : Code) (contents : Bytes) (fuel : Nat)
    (hfuel : contents.length < fuel) (s : List Bool) (written : Array UInt8) :
    symbols? fixedSymbols distances fuel (literals contents ++ (codeword endOfBlock ++ s)) written
      = some (s, written ++ contents) := by
  induction contents generalizing fuel written with
  | nil =>
      obtain ⟨fuel, rfl⟩ := Nat.exists_eq_add_one_of_ne_zero (Nat.ne_of_gt hfuel)
      have hread := Code.symbol?_append _ 0 _ s _ (fixedSymbols_codeword endOfBlock (Nat.le_refl _))
      show symbols? fixedSymbols distances (fuel + 1) (codeword endOfBlock ++ s) written = _
      unfold symbols?
      rw [hread]
      show some (s, written) = some (s, written ++ [])
      rw [Array.appendList_nil]
  | cons b contents ih =>
      obtain ⟨fuel, rfl⟩ :=
        Nat.exists_eq_add_one_of_ne_zero (Nat.ne_of_gt (Nat.zero_lt_of_lt hfuel))
      have hoctet : b.toNat < endOfBlock := b.toNat_lt
      have hread := Code.symbol?_append _ 0 _ (literals contents ++ (codeword endOfBlock ++ s)) _
        (fixedSymbols_codeword b.toNat (Nat.le_of_lt hoctet))
      have hrest := ih fuel (Nat.lt_of_succ_lt_succ hfuel) (written.push b)
      have hsplit : literals (b :: contents) ++ (codeword endOfBlock ++ s)
          = codeword b.toNat ++ (literals contents ++ (codeword endOfBlock ++ s)) := by
        unfold literals
        rw [List.flatMap_cons, List.append_assoc]
      rw [hsplit]
      unfold symbols?
      rw [hread]
      simp only [Option.bind_eq_bind, Option.bind_some, hoctet, if_true, UInt8.ofNat_toNat]
      rw [hrest]
      simp

/-! ## §3. Blocks. -/

/-- Octets that are compressed: one block of the fixed code, which is the last. -/
def deflate (contents : Bytes) : List Bool :=
  numberBits 1 1 ++ (numberBits 2 1 ++ (literals contents ++ codeword endOfBlock))

/-- What fills the last octet up. -/
def filler (s : List Bool) : List Bool := List.replicate (7 - (s.length + 7) % 8) false

theorem length_literals_le (contents : Bytes) : contents.length ≤ (literals contents).length := by
  induction contents with
  | nil => exact Nat.le_refl _
  | cons b contents ih =>
      have hword : 1 ≤ (codeword b.toNat).length := by
        unfold codeword
        split
        · simp
        · split
          · simp
          · simp
      unfold literals at ih ⊢
      rw [List.flatMap_cons, List.length_append, List.length_cons]
      omega

/-- Whole octets stand where the next octet begins, whatever fills the one before up. -/
theorem aligned_filler (s rest : List Bool) (hrest : rest.length % 8 = 0) :
    aligned (filler s ++ rest) = rest := by
  have hfiller : (filler s ++ rest).length % 8 = (filler s).length := by
    unfold filler
    rw [List.length_append, List.length_replicate]
    omega
  unfold aligned
  rw [hfiller, List.drop_left]

/-- Whole octets after what fills the last one up are whole octets together. -/
theorem whole_filler (s rest : List Bool) (hrest : rest.length % 8 = 0) :
    (s ++ (filler s ++ rest)).length % 8 = 0 := by
  unfold filler
  simp only [List.length_append, List.length_replicate]
  omega

/-- **What is compressed can be read**, and what follows begins at an octet. -/
theorem inflate?_deflate (contents : Bytes) (rest : List Bool) (hrest : rest.length % 8 = 0) :
    inflate? (deflate contents ++ (filler (deflate contents) ++ rest)) = some (contents, rest) := by
  have hfuel : contents.length
      < (deflate contents ++ (filler (deflate contents) ++ rest)).length + 1 := by
    have hliterals := length_literals_le contents
    unfold deflate
    simp only [List.length_append]
    omega
  have hread := symbols?_literals fixedDistances contents _ hfuel
    (filler (deflate contents) ++ rest) #[]
  have hsplit : deflate contents ++ (filler (deflate contents) ++ rest)
      = numberBits 1 1 ++ (numberBits 2 1 ++ (literals contents ++ (codeword endOfBlock
        ++ (filler (deflate contents) ++ rest)))) := by
    unfold deflate
    simp only [List.append_assoc]
  have hlast := number?_append 1 1 (by decide) (numberBits 2 1 ++ (literals contents
    ++ (codeword endOfBlock ++ (filler (deflate contents) ++ rest))))
  have hkind := number?_append 2 1 (by decide) (literals contents
    ++ (codeword endOfBlock ++ (filler (deflate contents) ++ rest)))
  unfold inflate? blocks?
  generalize (deflate contents ++ (filler (deflate contents) ++ rest)).length = fuel at hread ⊢
  rw [hsplit, hlast]
  simp only [Option.bind_eq_bind, Option.bind_some]
  rw [hkind]
  simp only [Option.bind_some]
  rw [hread]
  simp only [Option.bind_some, if_true, Option.map_some]
  rw [aligned_filler _ rest hrest]
  simp

end Deflate

/-! ## §4. Packed bodies. -/

/-- The checksum is a number of 32 bits. -/
theorem checksum_lt (s : Bytes) : checksum s < Nat.pow 2 32 := by
  have hbit : ∀ c, c < 2 ^ 32 → checksumBit c < 2 ^ 32 := by
    intro c hc
    have hhalf : c / 2 < 2 ^ 32 := Nat.lt_of_le_of_lt (Nat.div_le_self c 2) hc
    unfold checksumBit
    split
    · exact Nat.xor_lt_two_pow hhalf (by decide)
    · exact hhalf
  have hoctet : ∀ c (b : UInt8), c < 2 ^ 32 → checksumOctet c b < 2 ^ 32 := by
    intro c b hc
    have hmixed : c ^^^ b.toNat < 2 ^ 32 :=
      Nat.xor_lt_two_pow hc (Nat.lt_trans b.toNat_lt (by decide))
    exact List.foldlRecOn (motive := (· < 2 ^ 32)) _ _ hmixed fun c hc _ _ => hbit c hc
  have hoctets : s.foldl checksumOctet 0xFFFFFFFF < 2 ^ 32 :=
    List.foldlRecOn (motive := (· < 2 ^ 32)) s _ (by decide) fun c hc b _ => hoctet c b hc
  exact Nat.xor_lt_two_pow hoctets (by decide)

/-- Packs a body: a header that says nothing more, what is compressed, the checksum and the
length. -/
def pack (contents : Bytes) : Bytes :=
  [0x1F, 0x8B, 0x08, 0, 0, 0, 0, 0, 0, 0xFF] ++ Deflate.octetsOf
    (Deflate.deflate contents ++ (Deflate.filler (Deflate.deflate contents)
      ++ (Deflate.numberBits 32 (checksum contents)
        ++ Deflate.numberBits 32 (contents.length % 0x100000000))))

/-- **What is packed can be opened.** -/
theorem unpack?_pack (contents : Bytes) : unpack? (pack contents) = some contents := by
  let sum := Deflate.numberBits 32 (checksum contents)
  let length := Deflate.numberBits 32 (contents.length % 0x100000000)
  let packed := Deflate.deflate contents
    ++ (Deflate.filler (Deflate.deflate contents) ++ (sum ++ length))
  have hend : (sum ++ length).length % 8 = 0 := by
    rw [List.length_append, Deflate.length_numberBits, Deflate.length_numberBits]
  have hheader : afterGzipHeader? (pack contents) = some (Deflate.octetsOf packed) := rfl
  have hbits : Deflate.bitsOf (Deflate.octetsOf packed) = packed :=
    Deflate.bitsOf_octetsOf packed (Deflate.whole_filler _ _ hend)
  have hinflate : Deflate.inflate? packed = some (contents, sum ++ length) :=
    Deflate.inflate?_deflate contents (sum ++ length) hend
  have hsum := Deflate.number?_append 32 (checksum contents) (checksum_lt contents) length
  have hlength := Deflate.number?_append 32 (contents.length % 0x100000000)
    (Nat.mod_lt _ (by decide)) []
  rw [List.append_nil] at hlength
  have hfull : (pack contents).isEmpty = false := rfl
  unfold unpack?
  simp only [hfull, Bool.false_eq_true, if_false, hheader, Option.bind_eq_bind, Option.bind_some]
  rw [hbits, hinflate]
  simp only [Option.bind_some]
  rw [hsum]
  simp only [Option.bind_some]
  rw [hlength]
  simp

-- another packer's block brings its own codes, and has a stretch of what was written before
example : unpack? [0x1F, 0x8B, 0x08, 0x00, 0x00, 0x00, 0x00, 0x00, 0x02, 0x03, 0x0D, 0xC1, 0x01,
    0x01, 0x00, 0x00, 0x00, 0x82, 0xA0, 0xAD, 0xEA, 0xFF, 0x0F, 0x05, 0x66, 0x74, 0x68, 0x22, 0x60,
    0x03, 0x08, 0x70, 0x10, 0xBC, 0x15, 0x00, 0x00, 0x00]
    = some "bcbcaccccabbcbabaaabc".toUTF8.toList := by
  decide +kernel

/-- **A packed body counts as what was packed**, without the headers that tell of the packing. -/
theorem finalAnswer?_pack (head : Head) (contents : Bytes)
    (hpacked : isPacked (Headers.grouped head.headers) = true) :
    finalAnswer? head (pack contents) = some ⟨UInt16.ofNat head.status,
      (takeOut "content-length" (takeOut "content-encoding" (Headers.grouped head.headers))).map
        fun h => (h.1, stringLossy h.2), contents⟩ := by
  unfold finalAnswer?
  simp only [hpacked, if_true]
  rw [unpack?_pack]
  rfl

end FormUpload.Http
