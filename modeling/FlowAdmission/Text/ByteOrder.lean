namespace FlowAdmission.Text

def bytes (s : String) : List UInt8 :=
  s.toUTF8.data.toList

def byteLe (s t : String) : Bool :=
  decide (bytes s ≤ bytes t)

def sortOn {α : Type} (key : α → String) (xs : List α) : List α :=
  xs.mergeSort (fun a b => byteLe (key a) (key b))

def sortOnPair {α : Type} (first second : α → String) (xs : List α) : List α :=
  xs.mergeSort (fun a b =>
    if first a = first b then byteLe (second a) (second b) else byteLe (first a) (first b))

end FlowAdmission.Text
