import ProxmoxMcp.Core.Json

/-!
# The strings of a JSON value

A function that rewrites the texts in a value, and nothing else, may look at **where** a text
stands: under which keys and in which lists, from the nearest one up (`JsonStep`). `mapStrings` is
every such function, and `strings` lists the texts of a value with what stands above them.

Two of these functions agree on a value exactly when they agree on each of its texts
(`mapStrings_eq_iff`), and none of them changes what is not a text (`mapStrings_mapStrings`).
-/

namespace ProxmoxMcp

/-- One step down into a value. -/
inductive JsonStep where
  | key (name : String)
  | item
  deriving DecidableEq

namespace Json

mutual

/-- Rewrite each text by the steps above it, the nearest first. -/
def mapStrings (f : List JsonStep → String → String) (above : List JsonStep) : Json → Json
  | .string text => .string (f above text)
  | .array items => .array (mapItems f above items)
  | .object members => .object (mapMembers f above members)
  | value => value

def mapItems (f : List JsonStep → String → String) (above : List JsonStep) : List Json → List Json
  | [] => []
  | item :: rest => mapStrings f (.item :: above) item :: mapItems f above rest

def mapMembers (f : List JsonStep → String → String) (above : List JsonStep) :
    List (String × Json) → List (String × Json)
  | [] => []
  | (key, value) :: rest => (key, mapStrings f (.key key :: above) value) :: mapMembers f above rest

end

mutual

/-- The texts of a value, each with the steps above it. -/
def strings (above : List JsonStep) : Json → List (List JsonStep × String)
  | .string text => [(above, text)]
  | .array items => itemStrings above items
  | .object members => memberStrings above members
  | _ => []

def itemStrings (above : List JsonStep) : List Json → List (List JsonStep × String)
  | [] => []
  | item :: rest => strings (.item :: above) item ++ itemStrings above rest

def memberStrings (above : List JsonStep) :
    List (String × Json) → List (List JsonStep × String)
  | [] => []
  | (key, value) :: rest => strings (.key key :: above) value ++ memberStrings above rest

end

variable {f g : List JsonStep → String → String}

mutual

/-- **Agreement**: two rewritings of a value are equal when they are on each of its texts. -/
theorem mapStrings_eq_iff : ∀ (above : List JsonStep) (value : Json),
    mapStrings f above value = mapStrings g above value ↔
      ∀ place ∈ strings above value, f place.1 place.2 = g place.1 place.2
  | above, .string text => by simp [mapStrings, strings]
  | above, .array items => by
    rw [mapStrings, mapStrings, strings, array.injEq]
    exact mapItems_eq_iff above items
  | above, .object members => by
    rw [mapStrings, mapStrings, strings, object.injEq]
    exact mapMembers_eq_iff above members
  | _, .null => by simp [mapStrings, strings]
  | _, .bool _ => by simp [mapStrings, strings]
  | _, .unsigned _ => by simp [mapStrings, strings]
  | _, .negative _ => by simp [mapStrings, strings]
  | _, .float _ => by simp [mapStrings, strings]

private theorem mapItems_eq_iff : ∀ (above : List JsonStep) (items : List Json),
    mapItems f above items = mapItems g above items ↔
      ∀ place ∈ itemStrings above items, f place.1 place.2 = g place.1 place.2
  | _, [] => by simp [mapItems, itemStrings]
  | above, item :: rest => by
    rw [mapItems, mapItems, itemStrings, List.forall_mem_append, List.cons.injEq]
    exact and_congr (mapStrings_eq_iff (.item :: above) item) (mapItems_eq_iff above rest)

private theorem mapMembers_eq_iff : ∀ (above : List JsonStep) (members : List (String × Json)),
    mapMembers f above members = mapMembers g above members ↔
      ∀ place ∈ memberStrings above members, f place.1 place.2 = g place.1 place.2
  | _, [] => by simp [mapMembers, memberStrings]
  | above, (key, value) :: rest => by
    rw [mapMembers, mapMembers, memberStrings, List.forall_mem_append, List.cons.injEq,
      Prod.mk.injEq, eq_self_iff_true, true_and]
    exact and_congr (mapStrings_eq_iff (.key key :: above) value) (mapMembers_eq_iff above rest)

end

mutual

/-- Rewriting texts leaves their **places**: rewriting twice is rewriting once by both. -/
theorem mapStrings_mapStrings : ∀ (above : List JsonStep) (value : Json),
    mapStrings g above (mapStrings f above value) =
      mapStrings (fun above text => g above (f above text)) above value
  | _, .string _ => rfl
  | above, .array items => congrArg array (mapItems_mapItems above items)
  | above, .object members => congrArg object (mapMembers_mapMembers above members)
  | _, .null => rfl
  | _, .bool _ => rfl
  | _, .unsigned _ => rfl
  | _, .negative _ => rfl
  | _, .float _ => rfl

private theorem mapItems_mapItems : ∀ (above : List JsonStep) (items : List Json),
    mapItems g above (mapItems f above items) =
      mapItems (fun above text => g above (f above text)) above items
  | _, [] => rfl
  | above, item :: rest => by
    rw [mapItems, mapItems, mapItems, mapStrings_mapStrings (.item :: above) item,
      mapItems_mapItems above rest]

private theorem mapMembers_mapMembers : ∀ (above : List JsonStep) (members : List (String × Json)),
    mapMembers g above (mapMembers f above members) =
      mapMembers (fun above text => g above (f above text)) above members
  | _, [] => rfl
  | above, (key, value) :: rest => by
    rw [mapMembers, mapMembers, mapMembers, mapStrings_mapStrings (.key key :: above) value,
      mapMembers_mapMembers above rest]

end

/-- The value with its texts blanked: what it is apart from them. -/
def shape (value : Json) : Json := mapStrings (fun _ _ => "") [] value

/-- Everything that is not a text stays as it is. -/
theorem shape_mapStrings (f : List JsonStep → String → String) (value : Json) :
    shape (mapStrings f [] value) = shape value :=
  mapStrings_mapStrings [] value

end Json

end ProxmoxMcp
