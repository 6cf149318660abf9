import Mathlib.Data.List.Forall2
import ModelScribe.Proofs.Registry.ObjectPaths

/-! # The log of a build

The events of a build are attributed to the objects of the sample
(`ModelScribe.Registry.exists_replays`): each object with a declaration has one event
for each of its nulls and one for its declaration, and the events come in the order
in which the objects are built, inner ones first and member after member. The events
of declarations, which read the registry, list what is added to it.

Names do not tell objects apart, as two models may have one name, so what an event is
about is given by paths (`ModelScribe.Moment`).
-/

namespace ModelScribe

/-- What an event is about. -/
inductive Moment
  /-- The null at a place among the members of the object that a path leads to. -/
  | dropped (object : List Step) (place : Nat)
  /-- The object that a path leads to. -/
  | declared (object : List Step)
  deriving DecidableEq

namespace Step

/-- The place of the value that is stepped to. -/
def place : Step → Nat
  | member place => place
  | first => 0

/-- The order of a build: what is below an object comes before it, and what is below a member
before what is below a later one. -/
def Before : List Step → List Step → Prop
  | [], _ => False
  | _ :: _, [] => True
  | step :: path, other :: further =>
      step.place < other.place ∨ step = other ∧ Before path further

/-- The order of two paths does not depend on what both begin with. -/
theorem before_append (common path further : List Step) :
    Before (common ++ path) (common ++ further) ↔ Before path further := by
  induction common with
  | nil => rfl
  | cons step common ih => simp [Before, ih]

end Step

namespace Moment

/-- The path of the object that an event is about, or whose null it is about. -/
def object : Moment → List Step
  | dropped object _ => object
  | declared object => object

/-- The path of the value that an event is about. -/
def path : Moment → List Step
  | dropped object place => object ++ [.member place]
  | declared object => object

/-- A moment of an inner value, seen from one step outside. -/
def within (step : Step) : Moment → Moment
  | dropped object place => dropped (step :: object) place
  | declared object => declared (step :: object)

/-- A moment seen from one step further out is about an object one step further in. -/
@[simp]
theorem object_within (step : Step) (moment : Moment) :
    (moment.within step).object = step :: moment.object := by
  cases moment <;> rfl

/-- The path of a moment seen from one step further out has that step in front. -/
@[simp]
theorem path_within (step : Step) (moment : Moment) :
    (moment.within step).path = step :: moment.path := by
  cases moment <;> rfl

/-- The path of a moment begins with that of its object. -/
theorem exists_path_eq (moment : Moment) : ∃ rest, moment.path = moment.object ++ rest := by
  cases moment with
  | dropped object place => exact ⟨_, rfl⟩
  | declared object => exact ⟨[], (List.append_nil _).symm⟩

/-- An event names the model of the object in question, and with it the key of the null or the
number of fields. -/
def Tells (site : Site) : Moment → BuildEvent → Prop
  | dropped object place, .droppedKey model key => ∃ members,
      site.at? object = some ⟨model, .object members⟩ ∧ members[place]? = some (key, .null)
  | declared object, .declared model fields _ => ∃ members,
      site.at? object = some ⟨model, .object members⟩ ∧ fields = (Field.ofMembers members).length
  | _, _ => False

/-- What a moment tells of an inner site it tells of the outer one as well. -/
theorem Tells.within {site inner : Site} {step : Step} (stepped : site.step? step = some inner)
    {moment : Moment} {event : BuildEvent} (tells : moment.Tells inner event) :
    (moment.within step).Tells site event := by
  have leads (path : List Step) : site.at? (step :: path) = inner.at? path := by
    rw [Site.at?, stepped]
    rfl
  match moment, event, tells with
  | dropped object _, .droppedKey _ _, tells => simpa only [Moment.within, Tells, leads] using tells
  | declared object, .declared _ _ _, tells => simpa only [Moment.within, Tells, leads] using tells

/-- What a log tells of an object and its nulls. -/
def about (path : List Step) (log : List Moment) : List Moment :=
  log.filter fun moment => moment.object = path

/-- The moments about an object in two logs are those of the first and then of the second. -/
theorem about_append (path : List Step) (first second : List Moment) :
    about path (first ++ second) = about path first ++ about path second :=
  List.filter_append ..

/-- No moment of an inner value is one of the object itself. -/
theorem about_map_within_nil (step : Step) (log : List Moment) :
    about [] (log.map (within step)) = [] := by
  simp [about]

/-- A step in front of a log and of a path changes nothing in what is about what. -/
theorem about_map_within_cons (step : Step) (path : List Step) (log : List Moment) :
    about (step :: path) (log.map (within step)) = (about path log).map (within step) := by
  rw [about, List.filter_map]
  simp [about, Function.comp_def]

/-- A moment comes before another one if the value that it is about does. -/
def Before (first second : Moment) : Prop := Step.Before first.path second.path

/-- Two moments keep their order when they are seen from further out. -/
theorem Before.within {first second : Moment} (before : first.Before second) (step : Step) :
    (first.within step).Before (second.within step) := by
  rw [Before, path_within, path_within]
  exact .inr ⟨rfl, before⟩

/-- In a sorted log the objects below earlier members are declared before a null is told. -/
theorem declared_mem_front {front back : List Moment} {path rest : List Step} {place earlier : Nat}
    (sorted : (front ++ dropped path place :: back).Pairwise Before) (less : earlier < place)
    (among : declared (path ++ .member earlier :: rest) ∈ front ++ dropped path place :: back) :
    declared (path ++ .member earlier :: rest) ∈ front := by
  rcases List.mem_append.mp among with inFront | later
  · exact inFront
  rcases List.mem_cons.mp later with same | inBack
  · cases same
  · have before := (List.pairwise_cons.mp (List.pairwise_append.mp sorted).2.1).1 _ inBack
    rw [Before, Moment.path, Moment.path, Step.before_append] at before
    rcases before with behind | ⟨_, inside⟩
    · exact absurd behind (Nat.lt_asymm less)
    · exact inside.elim

end Moment

namespace Json

mutual

/-- The moments of building a value, in order. -/
def moments : Json → List Moment
  | object members => momentsBelow 0 members ++ [.declared []]
  | array (item :: _) => item.moments.map (.within .first)
  | _ => []

/-- The moments of building the members of an object from a place on. -/
def momentsBelow (place : Nat) : List (String × Json) → List Moment
  | [] => []
  | (_, value) :: members =>
      (if value = .null then [.dropped [] place] else []) ++
        value.moments.map (.within (.member place)) ++ momentsBelow (place + 1) members

end

theorem momentsBelow_singleton (place : Nat) (member : String × Json) :
    momentsBelow place [member] =
      (if member.2 = .null then [.dropped [] place] else []) ++
        member.2.moments.map (.within (.member place)) :=
  List.append_nil _

/-- The moments of members come one member after another. -/
theorem momentsBelow_append (place : Nat) (earlier later : List (String × Json)) :
    momentsBelow place (earlier ++ later) =
      momentsBelow place earlier ++ momentsBelow (place + earlier.length) later := by
  induction earlier generalizing place with
  | nil => rfl
  | cons member earlier ih =>
      rw [List.cons_append, momentsBelow, momentsBelow, ih, List.length_cons, Nat.add_assoc,
        Nat.add_comm 1, List.append_assoc _ (momentsBelow _ earlier)]

/-- What happens below some members is about values at their places or below these. -/
theorem exists_path_eq_of_mem_momentsBelow {place : Nat} {members : List (String × Json)}
    {moment : Moment} (among : moment ∈ momentsBelow place members) :
    ∃ here rest, place ≤ here ∧ here < place + members.length ∧
      moment.path = .member here :: rest := by
  induction members generalizing place with
  | nil => simp [momentsBelow] at among
  | cons member members ih =>
      rw [momentsBelow, List.mem_append, List.mem_append] at among
      rw [List.length_cons]
      rcases among with (null | inside) | later
      · split at null
        · rw [List.mem_singleton.mp null]
          exact ⟨place, [], Nat.le_refl _, by omega, rfl⟩
        · simp at null
      · obtain ⟨inner, _, rfl⟩ := List.mem_map.mp inside
        exact ⟨place, inner.path, Nat.le_refl _, by omega, Moment.path_within _ _⟩
      · obtain ⟨here, rest, least, most, path⟩ := ih later
        exact ⟨here, rest, by omega, by omega, path⟩

/-- Members that follow others follow them in the log. -/
theorem before_of_mem_momentsBelow {place further : Nat} {earlier later : List (String × Json)}
    (apart : place + earlier.length ≤ further) {first second : Moment}
    (before : first ∈ momentsBelow place earlier) (after : second ∈ momentsBelow further later) :
    first.Before second := by
  obtain ⟨near, _, _, most, path⟩ := exists_path_eq_of_mem_momentsBelow before
  obtain ⟨far, _, least, _, beyond⟩ := exists_path_eq_of_mem_momentsBelow after
  rw [Moment.Before, path, beyond]
  exact .inl (show near < far by omega)

mutual

/-- Values are built in order. -/
theorem pairwise_moments : (value : Json) → value.moments.Pairwise Moment.Before
  | object members => by
      rw [moments, List.pairwise_append]
      refine ⟨pairwise_momentsBelow 0 members, List.pairwise_singleton _ _, ?_⟩
      intro inner below own last
      obtain ⟨here, rest, _, _, path⟩ := exists_path_eq_of_mem_momentsBelow below
      rw [List.mem_singleton.mp last, Moment.Before, path]
      trivial
  | array (item :: _) => by
      rw [moments]
      exact List.pairwise_map.mpr ((pairwise_moments item).imp fun before => before.within .first)
  | array [] => List.Pairwise.nil
  | null => List.Pairwise.nil
  | bool _ => List.Pairwise.nil
  | number _ => List.Pairwise.nil
  | string _ => List.Pairwise.nil

/-- The moments of members come in order. -/
theorem pairwise_momentsBelow (place : Nat) : (members : List (String × Json)) →
    (momentsBelow place members).Pairwise Moment.Before
  | [] => List.Pairwise.nil
  | (key, value) :: members => by
      have below := pairwise_moments value
      have whole := momentsBelow_append place [(key, value)] members
      rw [List.singleton_append] at whole
      rw [whole, List.pairwise_append]
      refine ⟨?_, pairwise_momentsBelow (place + 1) members, ?_⟩
      · rw [momentsBelow_singleton]
        by_cases null : value = .null
        · subst null
          exact List.pairwise_singleton _ _
        · rw [if_neg null]
          exact List.pairwise_map.mpr (below.imp fun before => before.within (.member place))
      · intro first before second after
        exact before_of_mem_momentsBelow (Nat.le_refl _) before after

end

/-- Of an object itself its members tell the nulls. -/
theorem about_momentsBelow_nil (place : Nat) (members : List (String × Json)) :
    Moment.about [] (momentsBelow place members) =
      (members.findIdxs (fun member => member.2 = .null) place).map (.dropped []) := by
  induction members generalizing place with
  | nil => rfl
  | cons member members ih =>
      rw [momentsBelow, Moment.about_append, Moment.about_append, Moment.about_map_within_nil, ih,
        List.findIdxs_cons]
      by_cases null : member.2 = .null
      · simp [null, Moment.about, Moment.object]
      · simp [null, Moment.about]

/-- Nothing is told of what lies outside. -/
theorem about_momentsBelow_of_outside {place here : Nat} {members : List (String × Json)}
    (outside : here < place ∨ place + members.length ≤ here) (path : List Step) :
    Moment.about (.member here :: path) (momentsBelow place members) = [] := by
  rw [Moment.about, List.filter_eq_nil_iff]
  intro moment among same
  obtain ⟨there, _, least, most, leads⟩ := exists_path_eq_of_mem_momentsBelow among
  obtain ⟨rest, object⟩ := moment.exists_path_eq
  rw [of_decide_eq_true same, leads] at object
  have places : there = here := Step.member.inj (List.cons.inj object).1
  omega

/-- Of the objects below a member the log tells what it does when the member is built by itself. -/
theorem about_momentsBelow_member {members : List (String × Json)} {place : Nat} {key : String}
    {value : Json} (found : members[place]? = some (key, value)) (path : List Step) :
    Moment.about (.member place :: path) (momentsBelow 0 members) =
      (Moment.about path value.moments).map (.within (.member place)) := by
  obtain ⟨bound, here⟩ := List.getElem?_eq_some_iff.mp found
  have cut : members = members.take place ++ ([(key, value)] ++ members.drop (place + 1)) := by
    rw [List.singleton_append, ← here, List.getElem_cons_drop, List.take_append_drop]
  have size : (members.take place).length = place := List.length_take_of_le (Nat.le_of_lt bound)
  have earlier : Moment.about (.member place :: path) (momentsBelow 0 (members.take place)) = [] :=
    about_momentsBelow_of_outside (.inr (by omega)) path
  have later : Moment.about (.member place :: path)
      (momentsBelow (place + 1) (members.drop (place + 1))) = [] :=
    about_momentsBelow_of_outside (.inl (by omega)) path
  have null : Moment.about (.member place :: path)
      (if value = .null then [.dropped [] place] else []) = [] := by
    split <;> rfl
  rw [cut, momentsBelow_append, momentsBelow_append, size, Nat.zero_add, momentsBelow_singleton]
  simp only [Moment.about_append, earlier, later, null, List.nil_append, List.append_nil,
    List.length_singleton, Moment.about_map_within_cons]

/-- **Moments of an object.** Each object has one moment for each of its nulls, in the order of the
keys, and then one for its declaration. -/
theorem about_moments {site : Site} {path : List Step} {model : String}
    {members : List (String × Json)} (leads : site.at? path = some ⟨model, .object members⟩) :
    Moment.about path site.value.moments =
      (members.findIdxs fun member => member.2 = .null).map (.dropped path) ++
        [.declared path] := by
  induction path generalizing site with
  | nil =>
      obtain rfl := Option.some.inj leads
      rw [moments, Moment.about_append, about_momentsBelow_nil]
      rfl
  | cons step path ih =>
      obtain ⟨inner, stepped, leads⟩ := Option.bind_eq_some_iff.mp leads
      obtain ⟨name, value⟩ := site
      cases step with
      | member place =>
          cases value with
          | object whole =>
              obtain ⟨⟨key, value⟩, found, rfl⟩ := Option.map_eq_some_iff.mp stepped
              rw [moments, Moment.about_append, about_momentsBelow_member found, ih leads]
              simp [Moment.about, Moment.object, Moment.within]
          | _ => cases stepped
      | first =>
          match value, stepped with
          | array (item :: _), rfl =>
              rw [moments, Moment.about_map_within_cons, ih leads]
              simp [Moment.within]

/-- Every object of a document has the moment of its declaration. -/
theorem declared_mem_moments {site : Site} {path : List Step} {model : String}
    {members : List (String × Json)} (leads : site.at? path = some ⟨model, .object members⟩) :
    .declared path ∈ site.value.moments := by
  have told : .declared path ∈ Moment.about path site.value.moments := by
    rw [about_moments leads]
    exact List.mem_append_right _ (List.mem_singleton_self _)
  exact List.mem_of_mem_filter told

end Json

/-- Every member has a field or is null. -/
theorem Field.length_ofMembers_add (members : List (String × Json)) :
    (ofMembers members).length + members.countP (fun member => member.2 = .null) =
      members.length := by
  rw [ofMembers_eq_map, List.length_map, ← List.countP_eq_length_filter, Nat.add_comm,
    List.length_eq_countP_add_countP fun member => decide (member.2 = .null)]
  simp

namespace BuildEvent

/-- What the event of a declaration says: its model, its number of fields and its place in the
registry. -/
def entry? : BuildEvent → Option (String × Nat × Nat)
  | declared model fields registrySize => some (model, fields, registrySize)
  | droppedKey _ _ => none

end BuildEvent

namespace Registry

/-- The models with their numbers of fields and their places, counted from one. -/
def entries (registry : Registry) : List (String × Nat × Nat) :=
  (registry.models.zipIdx 1).map fun (declaration, position) =>
    (declaration.model, declaration.fields.length, position)

/-- A declaration that is pushed is the last entry, with the size that it makes. -/
theorem entries_push (registry : Registry) (declaration : Declaration) :
    (registry.push declaration).entries = registry.entries ++
      [(declaration.model, declaration.fields.length, (registry.push declaration).size)] := by
  simp [entries, push, size, List.zipIdx_append, Nat.add_comm]

end Registry

namespace Build

/-- What happens between two states of a build is told by a log, and the registry has grown by what
the events say. -/
def Logs (site : Site) (log : List Moment) (before after : Build) : Prop :=
  ∃ events, after.events = before.events ++ events ∧
    after.registry.entries = before.registry.entries ++ events.filterMap BuildEvent.entry? ∧
    List.Forall₂ (Moment.Tells site) log events

/-- A build that stays as it is logs nothing. -/
theorem Logs.refl (site : Site) (build : Build) : Logs site [] build build :=
  ⟨[], (List.append_nil _).symm, (List.append_nil _).symm, .nil⟩

/-- Two logs of builds that follow each other are one log of both. -/
theorem Logs.append {site : Site} {first second : List Moment} {before between after : Build}
    (earlier : Logs site first before between) (later : Logs site second between after) :
    Logs site (first ++ second) before after := by
  obtain ⟨events, shown, registered, told⟩ := earlier
  obtain ⟨more, shownMore, registeredMore, toldMore⟩ := later
  refine ⟨events ++ more, ?_, ?_, List.rel_append told toldMore⟩
  · rw [shownMore, shown, List.append_assoc]
  · rw [registeredMore, registered, List.append_assoc, List.filterMap_append]

/-- The log of an inner site is one of the outer site, its paths a step longer. -/
theorem Logs.within {site inner : Site} {step : Step} (stepped : site.step? step = some inner)
    {log : List Moment} {before after : Build} (logs : Logs inner log before after) :
    Logs site (log.map (.within step)) before after := by
  obtain ⟨events, shown, registered, told⟩ := logs
  refine ⟨events, shown, registered, List.forall₂_map_left_iff.mpr ?_⟩
  exact told.imp fun _ _ tells => tells.within stepped

/-- Dropping a key logs that key. -/
theorem logs_dropKey {name key : String} {members : List (String × Json)} {place : Nat}
    (found : members[place]? = some (key, .null)) (build : Build) :
    Logs ⟨name, .object members⟩ [.dropped [] place] build (build.dropKey name key) :=
  ⟨[.droppedKey name key], rfl, (List.append_nil _).symm, .cons ⟨members, rfl, found⟩ .nil⟩

/-- Declaring an object logs that object. -/
theorem logs_declare (name : String) (members : List (String × Json)) (build : Build) :
    Logs ⟨name, .object members⟩ [.declared []] build
      (build.declare name (Field.ofMembers members)) :=
  ⟨[.declared name (Field.ofMembers members).length _], rfl, Registry.entries_push _ _,
    .cons ⟨members, rfl, rfl⟩ .nil⟩

/-- The event of a declaration says what the registry says of its last one. -/
theorem events_declare (name : String) (fields : List Field) (build : Build) :
    let after := build.declare name fields
    after.events = build.events ++ after.registry.entries.getLast?.toList.map fun entry =>
      .declared entry.1 entry.2.1 entry.2.2 := by
  intro after
  have grown : after.registry.entries = _ := Registry.entries_push build.registry (.of name fields)
  rw [grown, List.getLast?_concat]
  rfl

mutual

/-- Building a value is told by its moments. -/
theorem logs_below (name : String) : (value : Json) → (build : Build) →
    Logs ⟨name, value⟩ value.moments build (build.below name value)
  | .object members, build => by
      have below := logs_fields name members 0 members (fun _ => by rw [Nat.zero_add]) build
      have made := (models_fields name members build).1
      rw [Json.moments, below_object, made]
      exact below.append (logs_declare name members _)
  | .array (first :: others), build => by
      rw [Json.moments, below_array]
      exact (logs_below name first build).within rfl
  | .array [], build => .refl _ _
  | .null, build => .refl _ _
  | .bool _, build => .refl _ _
  | .number _, build => .refl _ _
  | .string _, build => .refl _ _

/-- Building the fields of members logs the moments of the members. -/
theorem logs_fields (name : String) (whole : List (String × Json)) (place : Nat) :
    (members : List (String × Json)) → (∀ offset, whole[place + offset]? = members[offset]?) →
      (build : Build) → Logs ⟨name, .object whole⟩ (Json.momentsBelow place members) build
        (fields name members build).2
  | [], _, build => .refl _ _
  | (key, value) :: members, found, build => by
      -- paths start at the whole object, of which the members are what is left from the place on
      have here : whole[place]? = some (key, value) := found 0
      have rest := logs_fields name whole (place + 1) members fun offset => by
        rw [Nat.add_assoc, Nat.add_comm 1, found]
        rfl
      rw [Json.momentsBelow]
      by_cases null : value = .null
      · subst null
        rw [fields_null]
        exact (logs_dropKey here build).append (rest _)
      · have stepped : Site.step? (.member place) ⟨name, .object whole⟩ =
            some ⟨nestedModel key, value⟩ := by
          rw [Site.step?, here]
          rfl
        rw [fields_cons null, if_neg null]
        exact ((logs_below (nestedModel key) value build).within stepped).append (rest _)

end

/-- Nothing is built from anything but an object. -/
theorem model_eq_of_not_object {sample : Json} (noObject : ∀ own, sample ≠ .object own)
    (name : String) (build : Build) : model name sample build = build := by
  cases sample with
  | object own => exact absurd rfl (noObject own)
  | _ => rfl

end Build

namespace Registry

/-- The log of a build replays the registry, if its events are about these moments. -/
structure Replays (name : String) (sample : Json) (registry : Registry) (log : List Moment) :
    Prop where
  /-- The events of declarations list what is added to the registry, in order: models, their
  numbers of fields, and their places in the whole registry. -/
  replayed : (registry.build name sample).entries =
    registry.entries ++ (registry.buildEvents name sample).filterMap BuildEvent.entry?
  /-- Each event tells of an object, or of a null in one, what it is said to. -/
  told : List.Forall₂ (Moment.Tells ⟨name, sample⟩) log (registry.buildEvents name sample)
  /-- Nothing happens if the sample is no object. -/
  nothing : (∀ own, sample ≠ .object own) → log = []
  /-- Of each object the nulls are told, in the order of the keys, and then the declaration. -/
  each : ∀ own path model members, sample = .object own →
    (Site.mk name sample).at? path = some ⟨model, .object members⟩ →
      Moment.about path log =
        (members.findIdxs fun member => member.2 = .null).map (.dropped path) ++ [.declared path]
  /-- What is below an object comes before it, member after member. -/
  sorted : log.Pairwise Moment.Before
  /-- When a null is told, the declarations of all objects below earlier keys have been. -/
  after : ∀ front path place back, log = front ++ .dropped path place :: back →
    ∀ earlier < place, ∀ rest model members,
      (Site.mk name sample).at? (path ++ .member earlier :: rest) =
        some ⟨model, .object members⟩ → .declared (path ++ .member earlier :: rest) ∈ front
  /-- Every key of an object has a field or is told as a null. -/
  counted : ∀ own path model members, sample = .object own →
    (Site.mk name sample).at? path = some ⟨model, .object members⟩ →
      (Field.ofMembers members).length +
        (Moment.about path log).countP (fun moment => moment ≠ .declared path) = members.length

/-- The log of a document that is an object is that of its moments. -/
theorem replays_moments (name : String) (own : List (String × Json)) (registry : Registry) :
    Replays name (.object own) registry (Json.object own).moments := by
  obtain ⟨events, shown, registered, told⟩ := Build.logs_below name (.object own) (.on registry)
  have same : registry.buildEvents name (.object own) = events := shown
  have sorted := Json.pairwise_moments (.object own)
  refine ⟨?replayed, ?told, ?nothing, ?each, sorted, ?after, ?counted⟩
  case replayed =>
    rw [same]
    exact registered
  case told =>
    rw [same]
    exact told
  case nothing =>
    intro noObject
    exact absurd rfl (noObject own)
  case each =>
    intro _ path model members _ leads
    exact Json.about_moments leads
  case after =>
    intro front path place back split earlier less rest model members leads
    have among := Json.declared_mem_moments leads
    rw [split] at sorted among
    exact Moment.declared_mem_front sorted less among
  case counted =>
    intro _ path model members _ leads
    rw [Json.about_moments leads, ← Field.length_ofMembers_add members, List.countP_append,
      List.countP_map]
    simp [Function.comp_def]

/-- The log of a document that is no object is empty. -/
theorem replays_nil {sample : Json} (noObject : ∀ own, sample ≠ .object own) (name : String)
    (registry : Registry) : Replays name sample registry [] := by
  have idle := Build.model_eq_of_not_object noObject name (.on registry)
  refine ⟨?replayed, ?told, fun _ => rfl, ?each, .nil, ?after, ?counted⟩
  case replayed =>
    rw [build, buildEvents, idle]
    exact (List.append_nil _).symm
  case told =>
    rw [buildEvents, idle]
    exact .nil
  case each =>
    intro own _ _ _ same
    exact absurd same (noObject own)
  case after =>
    intro front _ _ _ split
    simp at split
  case counted =>
    intro own _ _ _ same
    exact absurd same (noObject own)

/-- **Log of a build.** The log replays the registry, whatever was in it before. -/
theorem exists_replays (name : String) (sample : Json) (registry : Registry) :
    ∃ log, Replays name sample registry log := by
  by_cases object : ∃ own, sample = .object own
  · obtain ⟨own, rfl⟩ := object
    exact ⟨_, replays_moments name own registry⟩
  · exact ⟨_, replays_nil (fun own same => object ⟨own, same⟩) name registry⟩

/-- Behind one declaration, an inner object with a null, and then a null of its own. -/
example :
    let sample := Json.object [("inner", .object [("gone", .null)]), ("lost", .null)]
    buildEvents "Root" sample ⟨[.of "Other" []]⟩ =
      [.droppedKey "innerModel" "gone", .declared "innerModel" 0 2,
        .droppedKey "Root" "lost", .declared "Root" 1 3] := by
  decide

end Registry

end ModelScribe
