/-! # Balances

A balance is a signed byte. It stops at the ends of its range and never wraps around.
-/

namespace Parliament.Balance

/-- The signed byte nearest to `n`. -/
def clamp (n : Int) : Int8 := Int8.ofInt (max (-128) (min n 127))

def add (a b : Int8) : Int8 := clamp (a.toInt + b.toInt)

def sub (a b : Int8) : Int8 := clamp (a.toInt - b.toInt)

def neg (a : Int8) : Int8 := clamp (-a.toInt)

theorem toInt_clamp (n : Int) : (clamp n).toInt = max (-128) (min n 127) := by
  unfold clamp
  rw [Int8.toInt_ofInt_of_le] <;> omega

theorem toInt_add (a b : Int8) :
    (add a b).toInt = max (-128) (min (a.toInt + b.toInt) 127) := toInt_clamp _

theorem toInt_sub (a b : Int8) :
    (sub a b).toInt = max (-128) (min (a.toInt - b.toInt) 127) := toInt_clamp _

theorem toInt_neg (a : Int8) : (neg a).toInt = max (-128) (min (-a.toInt) 127) := toInt_clamp _

end Parliament.Balance
