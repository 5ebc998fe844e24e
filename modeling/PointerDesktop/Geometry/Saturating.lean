/-! # Saturating words

Geometry is computed in exact integers and stored in 32-bit words. A result that a word cannot
hold is stored as the nearest one that it can. -/

namespace PointerDesktop

/-- The largest unsigned 32-bit word. -/
def maxWord : Nat := 4294967295

/-- The unsigned word nearest to an integer. -/
def nearestWord (i : Int) : UInt32 :=
  UInt32.ofNat (min i.toNat maxWord)

/-- Sum that stops at the largest word. -/
def satAdd (a b : UInt32) : UInt32 :=
  nearestWord (a.toNat + b.toNat)

/-- Difference that stops at zero. -/
def satSub (a b : UInt32) : UInt32 :=
  nearestWord (a.toNat - b.toNat)

theorem toNat_nearestWord (i : Int) : (nearestWord i).toNat = min i.toNat maxWord := by
  unfold nearestWord maxWord
  have : UInt32.size = 4294967296 := rfl
  rw [UInt32.toNat_ofNat_of_lt']
  omega

theorem nearestWord_toNat (a : UInt32) : nearestWord a.toNat = a := by
  apply UInt32.toNat_inj.mp
  rw [toNat_nearestWord]
  have := a.toNat_lt
  unfold maxWord
  omega

theorem toNat_satAdd (a b : UInt32) : (satAdd a b).toNat = min (a.toNat + b.toNat) maxWord := by
  unfold satAdd
  rw [toNat_nearestWord]
  omega

theorem toNat_satSub (a b : UInt32) : (satSub a b).toNat = a.toNat - b.toNat := by
  unfold satSub
  rw [toNat_nearestWord]
  have := a.toNat_lt
  unfold maxWord
  omega

end PointerDesktop
