import ClassSkeleton.Output.Outlet

/-
  ClassSkeleton.Output.Memory — an outlet that fails on request.

  It keeps nothing but what decides the next answer: the type of each sink and how many prints it saw.
  Faults are by type: refusing the sink, failing every print, failing the first print of each sink, and
  failing to close; and the summary can be refused.
-/

namespace ClassSkeleton

structure Faults where
  create : List TypeName
  write : List TypeName
  writeOnce : List TypeName
  close : List TypeName
  summary : Bool
  deriving DecidableEq, Repr

namespace Memory

abbrev State := Table Nat (TypeName × Nat)

def acquire (f : Faults) (n : Nat) (t : TypeName) (s : Surroundings State) :
    (List String × Except SinkError Unit) × Surroundings State :=
  if f.create.contains t then (([], .error ⟨t, .other "sink refused"⟩), s)
  else (([], .ok ()), { s with state := s.state.put n (t, 0) })

def print (f : Faults) (n : Nat) (s : Surroundings State) : Except IoError Unit × Surroundings State :=
  match s.state.get? n with
  | none => (.ok (), s)
  | some (t, seen) =>
    let fails := f.write.contains t || (f.writeOnce.contains t && seen == 0)
    (if fails then .error (.other "disk full") else .ok (), { s with state := s.state.put n (t, seen + 1) })

def close (f : Faults) (n : Nat) (s : Surroundings State) : Except IoError Unit × Surroundings State :=
  match s.state.get? n with
  | some (t, _) => (if f.close.contains t then .error (.other "close failed") else .ok (), s)
  | none => (.ok (), s)

def outlet (f : Faults) : Outlet State where
  acquire n t _ _ := acquire f n t
  print n _ := print f n
  close := close f
  openSummary := pure (if f.summary then .error ⟨⟨"summary"⟩, .other "sink refused"⟩ else .ok ())
  notify _ := pure ()
  closeSummary := pure ()

end Memory

end ClassSkeleton
