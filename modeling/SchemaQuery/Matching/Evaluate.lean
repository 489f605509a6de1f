import SchemaQuery.Matching.Compare
import SchemaQuery.Matching.Operator
import SchemaQuery.Matching.Outcome
import SchemaQuery.Matching.Path
import SchemaQuery.Pattern.Reader
import SchemaQuery.Template

/-!
# Evaluating filters

Whether a document satisfies a filter document. An operator holds of a field with an array also when
it holds of some element of it, and a field that is missing satisfies only negations and
comparisons with `null`. Conditions are evaluated in order and only as far as needed; an error in a
part that is reached is the outcome of the whole.
-/

namespace SchemaQuery.Matching

/-- An object with at least one key and only keys that start with a dollar sign. -/
def isOperatorObject (entries : List (String × Json)) : Bool :=
  !entries.isEmpty && entries.all fun (key, _) => isOperatorKey key

/-- The body of an envelope constrains the element itself, rather than the fields of an object. -/
def isElementCondition (body : List (String × Json)) : Bool :=
  isOperatorObject body && !body.any fun (key, _) => (LogicalOperator.ofKey? key).isSome

/-- A test holds of a value or of an element of an array among the values. An operand `null` is
also equal to a field that is missing. -/
def equalsBy (values : List Json) (expected : Json) (test : Json → Outcome) : Outcome :=
  if expected.isNull && values.isEmpty then .ok true else Outcome.any test (Json.candidates values)

/-- A value, or an element of an array among the values, is ordered as wanted. -/
def ordered (values : List Json) (bound : Json) (wanted : Ordering → Bool) : Bool :=
  (Json.candidates values).any fun value => (value.order? bound).any wanted

/-- An array of the given length is among the values. -/
def hasSize (values : List Json) : Json → Outcome
  | .num n =>
    match n.toNat? with
    | some size => .ok (values.any fun value => (value.items?.map List.length) == some size)
    | none => .error (.malformed .size)
  | _ => .error (.malformed .size)

/-- The field is there, or is not there, as wanted. -/
def existsAs (values : List Json) : Json → Outcome
  | .bool wanted => .ok ((!values.isEmpty) == wanted)
  | _ => .error (.malformed .exists)

/-- The flags of a pattern that options set. -/
def flagsOfOptions? (pattern : String) (options : Option Json) : Except MatchError Pattern.Flags :=
  match options with
  | none => .ok {}
  | some (.str letters) =>
    letters.toList.foldlM (fun flags letter =>
      match flags.set? letter with
      | some flags => .ok flags
      | none => .error (.invalidPattern pattern (.option letter))) {}
  | some _ => .error (.malformed .options)

/-- A string, or a string element of an array among the values, has a match of the pattern. The
pattern is checked whatever the values are. -/
def matchesPattern (values : List Json) (pattern : Json) (options : Option Json) : Outcome :=
  match pattern with
  | .str text => do
    let flags ← flagsOfOptions? text options
    match Pattern.compile? flags text with
    | some pattern =>
      .ok ((Json.candidates values).any fun value => value.text?.any pattern.isMatch)
    | none => .error (.invalidPattern text .malformed)
  | _ => .error (.malformed .regex)

mutual

/-- All entries of a filter hold of a document. -/
def fieldsHold (document : Json) : List (String × Json) → Outcome
  | [] => .ok true
  | (key, condition) :: rest =>
    Outcome.and
      (match FilterKey.ofString key with
        | .logical operator => clausesHold document key operator condition
        | .unknown => .error (.unknownOperator key)
        | .path => conditionHolds (Path.resolve document key) condition)
      fun _ => fieldsHold document rest
termination_by structural entries => entries

/-- A logical operator holds of a document with the clauses that it is bound to. -/
def clausesHold (document : Json) (key : String) (operator : LogicalOperator) : Json → Outcome
  | .arr (clause :: rest) =>
    operator.conclude <$> someClause document operator.decisive (clause :: rest)
  | _ => .error (.malformed (.clauses key))
termination_by structural clauses => clauses

/-- Some clause of a list has the wanted outcome. -/
def someClause (document : Json) (wanted : Bool) : List Json → Outcome
  | [] => .ok false
  | clause :: rest =>
    Outcome.or ((filterHolds document clause).map (· == wanted))
      fun _ => someClause document wanted rest
termination_by structural clauses => clauses

/-- A filter holds of a document. -/
def filterHolds (document : Json) : Json → Outcome
  | .obj entries => fieldsHold document entries
  | _ => .error (.malformed .filter)
termination_by structural filter => filter

/-- The condition bound to a path holds of the values that the path reaches: all its operators, or
equality with anything else. -/
def conditionHolds (values : List Json) : Json → Outcome
  | .obj entries =>
    if isOperatorObject entries then operatorsHold values entries entries
    else .ok ((Json.candidates values).any fun value => value.equal (.obj entries))
  | .arr expected =>
    Outcome.any
      (fun value =>
        match value with
        | .arr items =>
          if items.length = expected.length then placesMatch items expected else .ok false
        | _ => .ok false)
      (Json.candidates values)
  | leaf => equalsBy values leaf fun value => .ok (value.matchesLeaf leaf)
termination_by structural condition => condition

/-- All operators of an object hold of the values; `siblings` is the whole object. -/
def operatorsHold (values : List Json) (siblings : List (String × Json)) :
    List (String × Json) → Outcome
  | [] => .ok true
  | (key, operand) :: rest =>
    Outcome.and
      (match StoreOperator.ofKey? key with
        | some .eq => equalsBy values operand fun value => itemMatches value operand
        | some .ne => Outcome.not (equalsBy values operand fun value => itemMatches value operand)
        | some .gt => .ok (ordered values operand (· == .gt))
        | some .gte => .ok (ordered values operand (· != .lt))
        | some .lt => .ok (ordered values operand (· == .lt))
        | some .lte => .ok (ordered values operand (· != .gt))
        | some .oneOf => inList values key operand
        | some .noneOf => Outcome.not (inList values key operand)
        | some .exists => existsAs values operand
        | some .regex => matchesPattern values operand (Entries.get? siblings "$options")
        | some .options =>
          if Entries.contains siblings "$regex" then .ok true
          else .error (.malformed .optionsAlone)
        | some .all => containsAll values operand
        | some .elemMatch =>
          Outcome.any (fun element => elementMatches element operand)
            (values.flatMap Json.elements)
        | some .size => hasSize values operand
        | some .not =>
          if operand.isObject then Outcome.not (conditionHolds values operand)
          else .error (.malformed .not)
        | none => .error (.unknownOperator key))
      fun _ => operatorsHold values siblings rest
termination_by structural entries => entries

/-- The values are equal to some operand of a list. -/
def inList (values : List Json) (key : String) : Json → Outcome
  | .arr list => equalsSome values list
  | _ => .error (.malformed (.list key))
termination_by structural list => list

/-- The values are equal to one of the operands. -/
def equalsSome (values : List Json) : List Json → Outcome
  | [] => .ok false
  | expected :: rest =>
    Outcome.or (equalsBy values expected fun value => itemMatches value expected)
      fun _ => equalsSome values rest
termination_by structural list => list

/-- Some value has all the elements of a list, of which there must be one. -/
def containsAll (values : List Json) : Json → Outcome
  | .arr [] => .ok false
  | .arr (first :: rest) =>
    Outcome.any (fun value => containsEach value.elementsOrSelf (first :: rest)) values
  | _ => .error (.malformed .all)
termination_by structural list => list

/-- Each of the operands is equal to some element. -/
def containsEach (elements : List Json) : List Json → Outcome
  | [] => .ok true
  | expected :: rest =>
    Outcome.and (Outcome.any (fun element => itemMatches element expected) elements)
      fun _ => containsEach elements rest
termination_by structural list => list

/-- A value is equal to an operand, in which an envelope stands for any value that satisfies the
condition in it. -/
def itemMatches (actual : Json) : Json → Outcome
  | .obj [(key, condition)] =>
    if key = elemMatchKey then elementMatches actual condition
    else .ok (actual.equal (.obj [(key, condition)]))
  | .arr expected =>
    match actual with
    | .arr items =>
      if items.length = expected.length then placesMatch items expected else .ok false
    | _ => .ok false
  | leaf => .ok (actual.matchesLeaf leaf)
termination_by structural expected => expected

/-- The values are equal to the operands, place by place. Lists of different lengths are told apart
before any of their values are compared. -/
def placesMatch (items : List Json) : List Json → Outcome
  | [] => .ok true
  | expected :: rest =>
    match items with
    | [] => .ok false
    | item :: items => Outcome.and (itemMatches item expected) fun _ => placesMatch items rest
termination_by structural list => list

/-- The body of an envelope holds of an element: as operators on the element itself, or as a filter
of the element as a document. -/
def elementMatches (element : Json) : Json → Outcome
  | .obj body =>
    if isElementCondition body then operatorsHold [element] body body
    else if element.isObject then fieldsHold element body
    else .ok false
  | _ => .error (.malformed .elemMatch)
termination_by structural body => body

end

/-- A filter document holds of a document. -/
def holds (document filter : Json) : Outcome := filterHolds document filter

end SchemaQuery.Matching
