import MessageBus.Message.Basic

namespace MessageBus.Fixtures

open Text (Shape)

inductive Kind
  | animal | mammal | dog | cat | left | right | signal | alarm
  | gen1 | gen2 | gen3 | gen4 | gen5 | gen6 | batchNum | batchText | hybrid
  deriving DecidableEq, Repr

namespace Kind

/-- Every kind, in the order in which lists of kinds are shown. -/
def all : List Kind :=
  [animal, mammal, dog, cat, left, right, signal, alarm,
    gen1, gen2, gen3, gen4, gen5, gen6, batchNum, batchText, hybrid]

def label : Kind → String
  | animal => "Animal" | mammal => "Mammal" | dog => "Dog" | cat => "Cat"
  | left => "Left" | right => "Right" | signal => "Signal" | alarm => "Alarm"
  | gen1 => "Gen1" | gen2 => "Gen2" | gen3 => "Gen3"
  | gen4 => "Gen4" | gen5 => "Gen5" | gen6 => "Gen6"
  | batchNum => "BatchNum" | batchText => "BatchText" | hybrid => "Hybrid"

def typeName : Kind → String
  | animal => "postal_test::fixtures::Animal"
  | mammal => "postal_test::fixtures::Mammal"
  | dog => "postal_test::fixtures::Dog"
  | cat => "postal_test::fixtures::Cat"
  | left => "postal_test::fixtures::Left"
  | right => "postal_test::fixtures::Right"
  | batchNum => "oracle_driver::types::Batch<u32>"
  | batchText => "oracle_driver::types::Batch<alloc::string::String>"
  | k => "oracle_driver::types::" ++ k.label

/-- The types a kind is declared below, nearest first. -/
def parents : Kind → List Kind
  | mammal => [animal]
  | dog | cat => [mammal, animal]
  | alarm => [signal]
  | gen2 => [gen1]
  | gen3 => [gen2, gen1]
  | gen4 => [gen3, gen2, gen1]
  | gen5 => [gen4, gen3, gen2, gen1]
  | gen6 => [gen5, gen4, gen3, gen2, gen1]
  | hybrid => [cat, mammal, animal]
  | _ => []

def tag (k : Kind) : Tag :=
  .child k.typeName (k.parents.foldr (fun p above => .child p.typeName above) .root)

def ofLabel? (s : String) : Option Kind := all.find? (·.label == s)

end Kind

def animal (name : String) : Message :=
  .top Kind.animal.typeName (.record "Animal" [("name", .quoted name)] true)

def mammal (name : String) (legs : Nat) : Message :=
  let up := animal name
  .sub Kind.mammal.typeName up
    (.record "Mammal" [("animal", up.shape), ("legs", .nat legs)] true)

def dog (name : String) (legs : Nat) (good : Bool) : Message :=
  let up := mammal name legs
  .sub Kind.dog.typeName up (.record "Dog" [("mammal", up.shape), ("good", .bool good)] true)

def cat (name : String) (legs : Nat) (indoor : Bool) : Message :=
  let up := mammal name legs
  .sub Kind.cat.typeName up (.record "Cat" [("mammal", up.shape), ("indoor", .bool indoor)] true)

def left (n : Nat) : Message := .top Kind.left.typeName (.tuple "Left" [.nat n])

def right (n : Nat) : Message := .top Kind.right.typeName (.tuple "Right" [.nat n])

def signal : Message := .top Kind.signal.typeName (.word "Signal")

def alarm (code : Int) : Message :=
  .sub Kind.alarm.typeName signal
    (.record "Alarm" [("signal", signal.shape), ("code", .word (toString code))] true)

def gen1 (name : String) : Message :=
  .top Kind.gen1.typeName (.tuple "Gen1" [.quoted name])

def generation (k : Kind) (n : Nat) (up : Message) : Message :=
  .sub k.typeName up (.record k.label [("up", up.shape), ("n", .nat n)] true)

def gen2 (name : String) (n : Nat) : Message := generation .gen2 n (gen1 name)

def gen3 (name : String) (n : Nat) : Message := generation .gen3 n (gen2 name n)

def gen4 (name : String) (n : Nat) : Message := generation .gen4 n (gen3 name n)

def gen5 (name : String) (n : Nat) : Message := generation .gen5 n (gen4 name n)

def gen6 (name : String) (n : Nat) : Message := generation .gen6 n (gen5 name n)

def batchNum (items : List Nat) : Message :=
  .top Kind.batchNum.typeName (.record "Batch" [("items", .list (items.map .nat))] true)

def batchText (items : List String) : Message :=
  .top Kind.batchText.typeName (.record "Batch" [("items", .list (items.map .quoted))] true)

/-- A hybrid holds a dog and a cat, and belongs to the cats only. -/
def hybrid (name : String) (legs : Nat) (good indoor : Bool) (mark : Option String) : Message :=
  let up := cat name legs indoor
  .sub Kind.hybrid.typeName up
    (.record "Hybrid"
      [("dog", (dog name legs good).shape), ("cat", up.shape),
        ("tag", .option (mark.map .quoted))] true)

/-- A target that bears the tag of the animals and sees none of them. -/
def impostor : Target := { tag := Kind.animal.tag, blind := true }

/-- The targets that can be asked for by name: the kinds, the root, and the impostor. -/
def target? (s : String) : Option Target :=
  if s == "Message" then some { tag := .root }
  else if s == "Impostor" then some impostor
  else (Kind.ofLabel? s).map fun k => { tag := k.tag }

/-- The targets with their names, in the order in which lists of targets are shown. -/
def targets : List (String × Target) :=
  Kind.all.map (fun k => (k.label, { tag := k.tag })) ++
    [("Message", { tag := .root }), ("Impostor", impostor)]

def dogName? (m : Message) : Option String :=
  match (m.project Kind.dog.tag).bind fun dog =>
      ((dog.shape.field? "mammal").bind (·.field? "animal")).bind (·.field? "name") with
  | some (.quoted name) => some name
  | _ => none

end MessageBus.Fixtures
