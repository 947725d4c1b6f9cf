namespace FlowAdmission

structure Relationship where
  name : String
  description : String
deriving DecidableEq

namespace Relationship

def named (name : String) : Relationship :=
  ⟨name, ""⟩

def sameChannel (r s : Relationship) : Bool :=
  r.name == s.name

def firsts : List Relationship → List Relationship
  | [] => []
  | r :: rs => r :: (firsts rs).filter (!r.sameChannel ·)

def repeats (seen : List String) : List Relationship → List Relationship
  | [] => []
  | r :: rs =>
    if seen.contains r.name then r :: repeats seen rs else repeats (r.name :: seen) rs

end Relationship

end FlowAdmission
