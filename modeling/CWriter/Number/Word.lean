/-! Machine words of 64 bits with a sign, which count characters as well. -/
namespace CWriter.Number

/-- One more than the greatest integer of a machine word. -/
def wordBound : Int := Int.pow 2 63

/-- The integers that fit a machine word. -/
def fitsWord (n : Int) : Bool := -wordBound ≤ n && n < wordBound

end CWriter.Number
