import ChatProfiles.Proofs.Console.Location
import ChatProfiles.Proofs.Console.Members
/-!
# The roll of a session

Who is a member, and under which number, is read off the names at the heads of the lines: each name that is new up to
lowercase gets the next number, with the spelling it came in (`members_after`).  Lines without a name, lines that cannot
be read among them, count for nothing.  As members are only ever added at the end, nobody's entry changes
(`members_prefix_after`).  Together with what is known of the registry, a session is consistent after any lines
(`after_consistent`).
-/
namespace ChatProfiles

/-! ## Where stored profiles are -/

/-- Every stored location lies on the globe. -/
def Registry.OnGlobe (r : Registry) : Prop := ∀ g m p, r.get? g m = some p → ∀ l ∈ p.location, l.OnGlobe

/-- An update that places nobody off the globe leaves everybody on it. -/
theorem Bot.onGlobe_handle {config : BotConfig} {r : Registry} {u : Update} {o : Outcome} (h : r.OnGlobe)
    (hu : ∀ l, u.content = .location l → l.OnGlobe) (ho : handle config r u = .ok o) : o.registry.OnGlobe := by
  refine forall_get?_handle ho nofun (fun p hp => ?_) h
  unfold edited
  split
  · next c hc =>
    rcases c.apply_location (p.withMember u.sender) with hsame | ⟨l, rfl, hplace⟩
    · rw [hsame]; exact hp
    · rw [hplace]
      rintro _ ⟨⟩
      exact hu l (content_of_change? hc)
  · exact hp

namespace Session

/-! ## The roll -/

/-- The name at the head of a line, if the line can be read and is from somebody. -/
def nameOf? (t : Text) : Option Text := (Line.ofText t).toOption.bind Line.name?

def names (ts : List Text) : List Text := ts.filterMap nameOf?

/-- Of the names with the same lowercase the first. -/
def firstSpellings : List Text → List Text
  | [] => []
  | u :: us => u :: (firstSpellings us).filter fun w => Text.lowercase w ≠ Text.lowercase u

/-- The members that the names stand for, numbered as they come. -/
def roll (us : List Text) : List (Text × Member) :=
  (firstSpellings us).mapIdx fun n u => (Text.lowercase u, registered ((n : Int) + 1) u)

theorem mem_keys_firstSpellings {us : List Text} {key : Text} :
    key ∈ (firstSpellings us).map Text.lowercase ↔ key ∈ us.map Text.lowercase := by
  induction us with
  | nil => rfl
  | cons v us ih =>
    rw [firstSpellings, List.map_cons, List.map_cons, List.mem_cons, List.mem_cons, ← ih]
    refine or_congr_right' fun hne => ?_
    simp only [List.mem_map, List.mem_filter, decide_eq_true_eq, and_assoc]
    exact exists_congr fun w => and_congr_right fun _ => and_iff_right_of_imp fun hw hv => hne (hw ▸ hv)

/-- One name more is one spelling more, if no name before it has its lowercase. -/
theorem firstSpellings_concat (us : List Text) (u : Text) :
    firstSpellings (us ++ [u]) =
      if Text.lowercase u ∈ us.map Text.lowercase then firstSpellings us else firstSpellings us ++ [u] := by
  induction us with
  | nil => rfl
  | cons v us ih =>
    rw [List.cons_append, firstSpellings, ih, firstSpellings, List.map_cons]
    by_cases hu : Text.lowercase u ∈ us.map Text.lowercase
    · rw [if_pos hu, if_pos (List.mem_cons_of_mem _ hu)]
    · rw [if_neg hu, List.filter_append]
      by_cases hv : Text.lowercase u = Text.lowercase v
      · rw [if_pos (List.mem_cons.2 (.inl hv)), List.filter_cons_of_neg (by simp [hv]), List.filter_nil,
          List.append_nil]
      · rw [if_neg fun h => (List.mem_cons.1 h).elim hv hu, List.filter_cons_of_pos (by simp [hv]), List.filter_nil,
          List.cons_append]

theorem length_roll (us : List Text) : (roll us).length = (firstSpellings us).length := List.length_mapIdx

theorem map_fst_roll (us : List Text) : (roll us).map Prod.fst = (firstSpellings us).map Text.lowercase := by
  refine List.ext_getElem (by simp [length_roll]) fun n h h' => ?_
  simp [roll]

/-- Asking for a member puts the name on the roll. -/
theorem members_member_eq_roll {s : Session} {us : List Text} (h : s.members = roll us) (u : Text) :
    (s.member u).2.members = roll (us ++ [u]) := by
  have hkeys : Text.lowercase u ∈ s.members.map Prod.fst ↔ Text.lowercase u ∈ us.map Text.lowercase := by
    rw [h, map_fst_roll, mem_keys_firstSpellings]
  cases hu : s.members.lookup (Text.lowercase u) with
  | some m =>
    have hknown : Text.lowercase u ∈ us.map Text.lowercase := by
      obtain ⟨before, after, hs, -⟩ := List.lookup_eq_some_iff.1 hu
      rw [← hkeys, hs, List.map_append]
      exact List.mem_append_right _ List.mem_cons_self
    rw [member_of_known hu, h, roll, roll, firstSpellings_concat, if_pos hknown]
  | none =>
    have hnew : Text.lowercase u ∉ us.map Text.lowercase := by
      rw [← hkeys, List.mem_map]
      rintro ⟨x, hx, hkey⟩
      exact absurd (List.lookup_eq_none_iff.1 hu x hx) (by simp [hkey])
    rw [member_of_unknown hu, roll, firstSpellings_concat, if_neg hnew, List.mapIdx_concat, newcomer, h, length_roll]
    rfl

theorem names_cons (t : Text) (ts : List Text) : names (t :: ts) = (nameOf? t).toList ++ names ts := by
  rw [names, List.filterMap_cons, names]
  cases nameOf? t <;> rfl

/-- **A line adds its name to the roll**, if it has one. -/
theorem members_next_eq_roll {s : Session} {us : List Text} (h : s.members = roll us) (t : Text) :
    (s.next t).members = roll (us ++ (nameOf? t).toList) := by
  rcases step_cases s t with ⟨m, ht, hstep⟩ | ⟨line, step, s', ht, hstep, hdoes⟩
  · have hname : nameOf? t = none := by rw [nameOf?, ht]; rfl
    rw [next, hstep, hname, Option.toList_none, List.append_nil]
    exact h
  · have hname : nameOf? t = line.name? := by rw [nameOf?, ht]; rfl
    rw [next, hstep, hname]
    cases hdoes with
    | blank | quit | dump => exact h.trans (congrArg roll (List.append_nil us).symm)
    | posts posted handled =>
      rw [name?_of_posted? posted]
      exact members_member_eq_roll h _

/-- **The members of a session are those on the roll.** -/
theorem members_after : ∀ (ts : List Text) {s : Session} {us : List Text}, s.members = roll us →
    (s.after ts).members = roll (us ++ names ts)
  | [], s, us, h => h.trans (congrArg roll (List.append_nil us).symm)
  | t :: ts, s, us, h => by
    rw [names_cons, ← List.append_assoc]
    exact members_after ts (members_next_eq_roll h t)

/-- **Nobody's entry changes**: members are added at the end of the list. -/
theorem members_prefix_after (s : Session) (ts : List Text) : s.members <+: (s.after ts).members := by
  refine after_keeps (P := fun s' => s.members <+: s'.members) (fun s' t line step s'' _ h hdoes => ?_) ts
    (List.prefix_refl _)
  cases hdoes with
  | blank | quit | dump => exact h
  | posts => exact h.trans (members_prefix_member s' _)

/-- A location is posted only from a line that shares it. -/
theorem shared?_of_posted? {s : Session} {line : Line} {username : Text} {u : Update}
    (h : s.posted? line = some (username, u)) {l : Location} (hl : u.content = .location l) :
    line.shared? = some l := by
  cases line with
  | say => cases h; cases hl
  | share => cases h; cases hl; rfl
  | dump | quit | blank => cases h

/-- **Every location a session stores lies on the globe.** -/
theorem onGlobe_after (config : BotConfig) (group : Int) (ts : List Text) :
    (after { config, group } ts).registry.OnGlobe := by
  refine after_keeps (P := fun s => s.registry.OnGlobe) (fun s t line step s' hread h hdoes => ?_) ts
    (fun g m p hp => by cases hp)
  cases hdoes with
  | blank | quit | dump => exact h
  | posts posted handled =>
    exact Bot.onGlobe_handle h (fun l hl => Line.onGlobe_of_ofText hread l (shared?_of_posted? posted hl)) handled

/-! ## Consistency -/

/-- What is true of a session in a group after these lines. -/
structure Consistent (group : Int) (ts : List Text) (s : Session) : Prop where
  /-- The first spelling of each name, in order of first appearance. -/
  members : s.members = roll (names ts)
  keys : (s.members.map Prod.fst).Nodup
  key_iff : ∀ key, key ∈ s.members.map Prod.fst ↔ key ∈ (names ts).map Text.lowercase
  ids : s.members.map (·.2.id) = (List.range s.members.length).map fun n : Nat => (n : Int) + 1
  /-- Profiles are stored for the group only, and show the one member of their identifier. -/
  stored : ∀ g m p, s.registry.get? g m = some p →
    g = group ∧ p.id = m ∧ (∃ x ∈ s.members, x.2 = p.member) ∧ ∀ x ∈ s.members, x.2.id = m → x.2 = p.member
  located : ∀ g m p, s.registry.get? g m = some p → ∀ l ∈ p.location, l.OnGlobe

theorem group_after (config : BotConfig) (group : Int) (ts : List Text) :
    (after { config, group } ts).group = group := by
  refine after_keeps (P := fun s => s.group = group) (fun s t line step s' _ h hdoes => ?_) ts rfl
  cases hdoes with
  | blank | quit | dump => exact h
  | posts => exact (group_member s _).trans h

/-- **A session keeps its members and its profiles consistent**, whatever its lines are, and once somebody is a member
the entry stays as it is, whatever comes after. -/
theorem after_consistent (config : BotConfig) (group : Int) (ts : List Text) :
    Consistent group ts (after { config, group } ts) ∧
      ∀ us, (after { config, group } ts).members <+: (after { config, group } (ts ++ us)).members := by
  have h : (after { config, group } ts).Coherent := (coherent_fresh config group).after ts
  have hfresh : ({ config, group } : Session).members = roll [] := rfl
  have hmembers : (after { config, group } ts).members = roll (names ts) := members_after ts hfresh
  refine ⟨⟨hmembers, h.keys, fun key => ?_, h.ids, fun g m p hp => ?_, onGlobe_after config group ts⟩, fun us => ?_⟩
  · rw [hmembers, map_fst_roll, mem_keys_firstSpellings]
  · obtain ⟨hg, key, hkey⟩ := h.stored g m p hp
    have hid : p.id = m := Registry.id_of_get? hp
    refine ⟨hg.trans (group_after config group ts), hid, ⟨_, hkey, rfl⟩, fun x hx hx' => ?_⟩
    rw [h.eq_of_id_eq hx hkey (hx'.trans hid.symm)]
  · rw [after, after, List.foldl_append]
    exact members_prefix_after _ us

end Session

end ChatProfiles
