import ClassSkeleton.Output.Outlet

/-
  ClassSkeleton.Output.Stream — one text for everything.

  Every sink adds to the same text, which is the outlet's state. Nothing fails, and there is no summary.
-/

namespace ClassSkeleton.Stream

def print (text : String) (s : Surroundings String) : Except IoError Unit × Surroundings String :=
  (.ok (), { s with state := s.state ++ text })

def outlet : Outlet String where
  acquire _ _ _ _ := pure ([], .ok ())
  print _ := print
  close _ := pure (.ok ())
  openSummary := pure (.ok ())
  notify _ := pure ()
  closeSummary := pure ()

end ClassSkeleton.Stream
