/-!
# Bits of integers

An integer has infinitely many bits, which are those of its two's complement: from some place on
they are all clear for a number that is not below zero and all set for any other.  `Bits.and`,
`Bits.or` and `Bits.xor` combine two integers bit by bit, which `bit_and`, `bit_or` and `bit_xor`
state.  On natural numbers they are the operations of `Nat`.  To mask the low bits of any integer is
to take its remainder (`and_two_pow_sub_one`).

What changes with every flip depends on the lowest bit of their number only, which a sum keeps track
of by `decide_odd_add`.
-/

namespace Chip8
namespace Bits

/-- Whether a bit is set, counted from the lowest. -/
def bit (n : Int) (i : Nat) : Bool :=
  n / Int.pow 2 i % 2 = 1

/-- The bits that are set in both numbers. -/
def and : Int → Int → Int
  | .ofNat m, .ofNat n => ((m &&& n : Nat) : Int)
  | .ofNat m, .negSucc n => ((m ^^^ (m &&& n) : Nat) : Int)
  | .negSucc m, .ofNat n => ((n ^^^ (m &&& n) : Nat) : Int)
  | .negSucc m, .negSucc n => .negSucc (m ||| n)

/-- The bits that are set in one of the numbers or in both. -/
def or : Int → Int → Int
  | .ofNat m, .ofNat n => ((m ||| n : Nat) : Int)
  | .ofNat m, .negSucc n => .negSucc (n ^^^ (m &&& n))
  | .negSucc m, .ofNat n => .negSucc (m ^^^ (m &&& n))
  | .negSucc m, .negSucc n => .negSucc (m &&& n)

/-- The bits that are set in one of the numbers but not in both. -/
def xor : Int → Int → Int
  | .ofNat m, .ofNat n => ((m ^^^ n : Nat) : Int)
  | .ofNat m, .negSucc n => .negSucc (m ^^^ n)
  | .negSucc m, .ofNat n => .negSucc (m ^^^ n)
  | .negSucc m, .negSucc n => ((m ^^^ n : Nat) : Int)

@[simp] theorem and_natCast (m n : Nat) : and m n = ((m &&& n : Nat) : Int) := rfl

@[simp] theorem or_natCast (m n : Nat) : or m n = ((m ||| n : Nat) : Int) := rfl

@[simp] theorem xor_natCast (m n : Nat) : xor m n = ((m ^^^ n : Nat) : Int) := rfl

theorem bit_natCast (n i : Nat) : bit n i = n.testBit i := by
  rw [Nat.testBit_eq_decide_div_mod_eq]
  change decide ((n : Int) / 2 ^ i % 2 = 1) = _
  congr 1
  rw [eq_iff_iff]
  norm_cast

/-- The bits of a number below zero are those of its complement, inverted. -/
theorem bit_negSucc (n i : Nat) : bit (.negSucc n) i = !n.testBit i := by
  have hpos : (0 : Int) < 2 ^ i := Int.pow_pos (by decide)
  have hdiv : Int.negSucc n / 2 ^ i = -((n / 2 ^ i : Nat) : Int) - 1 := by
    rw [Int.negSucc_ediv _ hpos]
    change -((n : Int) / 2 ^ i + 1) = _
    rw [show (n : Int) / 2 ^ i = ((n / 2 ^ i : Nat) : Int) by norm_cast]
    omega
  rw [Nat.testBit_eq_decide_div_mod_eq]
  change decide (Int.negSucc n / 2 ^ i % 2 = 1) = _
  rw [hdiv]
  by_cases h : n / 2 ^ i % 2 = 1
  · simp only [h, decide_true, Bool.not_true, decide_eq_false_iff_not]
    omega
  · simp only [h, decide_false, Bool.not_false, decide_eq_true_eq]
    omega

theorem bit_and (a b : Int) (i : Nat) : bit (and a b) i = (bit a i && bit b i) := by
  cases a <;> cases b
  all_goals
    simp only [and, Int.ofNat_eq_natCast, bit_natCast, bit_negSucc, Nat.testBit_and,
      Nat.testBit_or, Nat.testBit_xor]
  all_goals grind

theorem bit_or (a b : Int) (i : Nat) : bit (or a b) i = (bit a i || bit b i) := by
  cases a <;> cases b
  all_goals
    simp only [or, Int.ofNat_eq_natCast, bit_natCast, bit_negSucc, Nat.testBit_and,
      Nat.testBit_or, Nat.testBit_xor]
  all_goals grind

theorem bit_xor (a b : Int) (i : Nat) : bit (xor a b) i = (bit a i ^^ bit b i) := by
  cases a <;> cases b
  all_goals
    simp only [xor, Int.ofNat_eq_natCast, bit_natCast, bit_negSucc, Nat.testBit_xor]
  all_goals grind

/-- The low bits of a number are its remainder, also below zero.  There the number's bits are those
of its complement, inverted, and to invert low bits is to take them from the mask. -/
theorem and_two_pow_sub_one (n : Int) (k : Nat) :
    and n (Nat.pow 2 k - 1 : Nat) = n % (Nat.pow 2 k : Nat) := by
  have hpos : 0 < 2 ^ k := Nat.two_pow_pos k
  cases n with
  | ofNat m =>
    change ((m &&& (2 ^ k - 1) : Nat) : Int) = _
    rw [Nat.and_two_pow_sub_one_eq_mod]
    rfl
  | negSucc m =>
    have hlow : m % 2 ^ k < 2 ^ k := Nat.mod_lt m hpos
    have hinverted : (2 ^ k - 1) ^^^ (m % 2 ^ k) = 2 ^ k - (m % 2 ^ k + 1) := by
      refine Nat.eq_of_testBit_eq fun i => ?_
      rw [Nat.testBit_xor, Nat.testBit_two_pow_sub_one, Nat.testBit_two_pow_sub_succ hlow,
        Nat.testBit_mod_two_pow]
      cases decide (i < k) <;> simp
    change (((2 ^ k - 1) ^^^ (m &&& (2 ^ k - 1)) : Nat) : Int) =
      Int.negSucc m % ((2 ^ k : Nat) : Int)
    rw [Nat.and_two_pow_sub_one_eq_mod, hinverted, Int.negSucc_emod m (by omega),
      ← Int.natCast_emod]
    omega

/-- A sum is odd if just one of its parts is. -/
theorem decide_odd_add (m n : Nat) :
    decide ((m + n) % 2 = 1) = (decide (m % 2 = 1) ^^ decide (n % 2 = 1)) := by
  grind

/-- To count one more turns the parity. -/
theorem decide_odd_add_ite (n : Nat) (p : Prop) [Decidable p] :
    decide ((n + if p then 1 else 0) % 2 = 1) = (decide p ^^ decide (n % 2 = 1)) := by
  rw [decide_odd_add, Bool.xor_comm]
  congr 1
  by_cases h : p <;> simp [h]

end Bits
end Chip8
