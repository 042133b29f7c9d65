/-
  ClassSkeleton.Version — the name and version the tool goes by.
-/

namespace ClassSkeleton

def toolName : String := "javadump"

def toolVersion : String := "0.1.0"

def versionLine : String := toolName ++ " " ++ toolVersion

end ClassSkeleton
