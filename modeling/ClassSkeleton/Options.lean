import ClassSkeleton.Filter
import ClassSkeleton.Naming

/-
  ClassSkeleton.Options — what a run is asked to do.
-/

namespace ClassSkeleton

structure Options where
  decompileInnerClasses : Bool
  renameDuplicateMembers : Bool
  renameEnumMembers : Bool
  renameIllegalIdentifiers : Bool
  methodFilter : Option String
  archiveFilter : NameFilter
  lowMemory : Bool
  silent : Bool
  extraClasspath : List Path
  outputDir : Option Path
  clobber : Bool

namespace Options

def default : Options := ⟨true, false, false, false, none, .everything, false, false, [], none, false⟩

def renamesMembers (o : Options) : Bool := o.renameDuplicateMembers || o.renameEnumMembers

def namingRules (o : Options) : NamingRules := ⟨o.renameDuplicateMembers, o.renameEnumMembers⟩

def identifierPolicy (o : Options) : IdentifierPolicy := if o.renameIllegalIdentifiers then .rename else .keep

end Options

end ClassSkeleton
