/-!
Clock readings and the whole seconds in them.
-/

set_option autoImplicit false

namespace SnippetReview

/-- A reading of a clock in seconds: a whole number, or a binary fraction of double precision. -/
inductive Clock where
  | whole (seconds : Int)
  | fraction (seconds : Float)

namespace Clock

/-- The whole number of a double that is nearest to it towards zero. The lowest 52 bits are the
significand without its leading one, the next eleven the exponent, and the last is the sign; an
exponent of 1075 means that the significand is the number. -/
def truncate (bits : Nat) : Int :=
  let exponent := (bits >>> 52) % (1 <<< 11)
  let significand := (1 <<< 52) + bits % (1 <<< 52)
  let magnitude :=
    if exponent < 1023 then 0
    else if exponent < 1075 then significand >>> (1075 - exponent)
    else significand <<< (exponent - 1075)
  if (bits >>> 63) % 2 = 1 then -Int.ofNat magnitude else Int.ofNat magnitude

def wholeSeconds : Clock → Int
  | whole seconds => seconds
  | fraction seconds => truncate seconds.toBits.toNat

end Clock

end SnippetReview
