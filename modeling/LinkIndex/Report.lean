import LinkIndex.Store

/-!
What a scan tells: how many documents there were, what became of them, the links
that are now recorded, and one warning for every file that could not be read.
-/

namespace LinkIndex

structure Report where
  documents : Int := 0
  processed : Int := 0
  skipped : Int := 0
  data : LinkData := {}
  warnings : List String := []
  deriving DecidableEq, Repr

end LinkIndex
