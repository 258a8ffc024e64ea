namespace Gamebook
namespace Number

/-!
# Powers of two and of ten

The limits of machine numbers are powers of two, and decimal exponents stand for
powers of ten.
-/

def twoTo (n : Nat) : Nat := Nat.pow 2 n

def tenTo (n : Nat) : Nat := Nat.pow 10 n

end Number
end Gamebook
