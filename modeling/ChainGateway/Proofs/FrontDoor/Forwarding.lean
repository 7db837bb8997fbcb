import Mathlib.Data.List.DropRight
import ChainGateway.Proofs.FrontDoor.Outcome

/-!
# Whose address a request carries

Proxies list the addresses a request has come through in header lines, separated by commas.  A
request may have several such lines, and they say the same as one line in which they are joined by
commas.  The caller is the first address that is listed; where none is, it is the peer
(`Announced`).

A request whose lines are joined carries the announced address.  A request as it comes in carries
the address that its first line alone announces, for the other lines are not read.  The two are the
same exactly if the first line lists an address, or no line does, or the address that is overlooked
happens to be that of the peer (`read_joined`).  With an empty first line the peer passes for the
caller, whoever is listed in the second one (`second_line_overlooked`).

## Strategy

What is said of lines is said of the parts that their commas separate, and joining lines
concatenates their parts (`splitOn_intercalate`).  Looking for the first address in one line is then
the relation `Announced` for any lines that it joins (`addressIn_intercalate_eq_iff`).  This serves
both requests, since the first line is the join of itself.
-/

namespace ChainGateway.FrontDoor

open Text Net

/-! ## Lists of addresses -/

/-- Spaces and tabs are blank. -/
def isBlank (char : Char) : Bool := char = ' ' || char = '\t'

/-- The entry is what is left of a part without the blanks around it. -/
structure Trims (part entry : List Char) : Prop where
  within : ∃ before after, part = before ++ entry ++ after ∧
    (∀ char ∈ before, isBlank char) ∧ ∀ char ∈ after, isBlank char
  first : ∀ char, entry.head? = some char → ¬ isBlank char
  last : ∀ char, entry.getLast? = some char → ¬ isBlank char

/-- The parts of lines that commas separate, in order. -/
def listed (lines : List (List Char)) : List (List Char) :=
  lines.flatMap (List.splitOn ',')

/-- The first entry of the lines that is not blank. -/
def ListsFirst (lines : List (List Char)) (entry : List Char) : Prop :=
  ∃ before part after, listed lines = before ++ part :: after ∧
    (∀ other ∈ before, ∀ char ∈ other, isBlank char) ∧ Trims part entry ∧ entry ≠ []

/-- All entries of the lines are blank. -/
def ListsNothing (lines : List (List Char)) : Prop :=
  ∀ part ∈ listed lines, ∀ char ∈ part, isBlank char

/-- The address of the peer, and no text if it is not known. -/
def peerAddress : Option IpAddress → String
  | some ip => ip.text
  | none => ""

/-- The address of the caller: the first one in the lines, or else that of the peer. -/
def Announced (lines : List (List Char)) (peer? : Option IpAddress) (address : String) : Prop :=
  (∃ entry, ListsFirst lines entry ∧ address = String.ofList entry) ∨
    ListsNothing lines ∧ address = peerAddress peer?

/-! ## Blanks around an entry -/

variable {part entry : List Char} {lines : List (List Char)} {peer? : Option IpAddress}
  {address : String}

theorem trims_trimBlanks (part : List Char) : Trims part (trimBlanks part) := by
  show Trims part ((part.dropWhile isBlank).rdropWhile isBlank)
  refine ⟨⟨part.takeWhile isBlank, (part.dropWhile isBlank).rtakeWhile isBlank, ?_, ?_, ?_⟩, ?_, ?_⟩
  · rw [List.append_assoc, List.rdropWhile_append_rtakeWhile, List.takeWhile_append_dropWhile]
  · exact fun char hmem => List.mem_takeWhile_imp hmem
  · exact fun char hmem => List.mem_rtakeWhile_imp hmem
  · -- what begins the entry begins the part without the blanks before it
    intro char hfirst
    obtain ⟨after, happend⟩ := List.rdropWhile_prefix isBlank (part.dropWhile isBlank)
    have hnot := List.head?_dropWhile_not isBlank part
    rw [← happend, List.head?_append, hfirst] at hnot
    exact Bool.eq_false_iff.mp hnot
  · intro char hlast
    have hne := List.getLast?_isSome.mp (Option.isSome_iff_exists.mpr ⟨_, hlast⟩)
    rw [List.getLast?_eq_some_getLast hne] at hlast
    exact Option.some.inj hlast ▸ List.rdropWhile_last_not _ _ hne

theorem Trims.trimBlanks_eq (htrims : Trims part entry) : trimBlanks part = entry := by
  obtain ⟨before, after, rfl, hbefore, hafter⟩ := htrims.within
  show ((before ++ entry ++ after).dropWhile isBlank).rdropWhile isBlank = entry
  rw [List.append_assoc, List.dropWhile_append_of_pos hbefore]
  cases entry with
  | nil =>
      rw [List.nil_append, List.dropWhile_eq_nil_iff.mpr hafter, List.rdropWhile_nil]
  | cons first entry =>
      rw [List.cons_append, List.dropWhile_cons_of_neg (htrims.first first rfl),
        ← List.cons_append, List.rdropWhile, List.reverse_append,
        List.dropWhile_append_of_pos fun char hmem => hafter char (List.mem_reverse.mp hmem)]
      exact List.rdropWhile_eq_self_iff.mpr fun hne =>
        htrims.last _ (List.getLast?_eq_some_getLast hne)

theorem trimBlanks_eq_iff : trimBlanks part = entry ↔ Trims part entry :=
  ⟨fun heq => heq ▸ trims_trimBlanks part, Trims.trimBlanks_eq⟩

theorem trims_nil_iff : Trims part [] ↔ ∀ char ∈ part, isBlank char := by
  refine ⟨fun htrims => ?_, fun hall => ⟨⟨part, [], by simp, hall, by simp⟩, nofun, nofun⟩⟩
  obtain ⟨before, after, rfl, hbefore, hafter⟩ := htrims.within
  intro char hmem
  rw [List.append_nil, List.mem_append] at hmem
  exact hmem.elim (hbefore char) (hafter char)

/-! ## Joined lines -/

theorem splitOn_append_cons (before after : List Char) :
    (before ++ ',' :: after).splitOn ',' = before.splitOn ',' ++ after.splitOn ',' := by
  simp only [List.splitOn_eq_splitOnP]
  exact List.splitOnP_append_cons before after (beq_self_eq_true ',')

/-- Joined by commas, lines keep their parts. -/
theorem splitOn_intercalate (hne : lines ≠ []) :
    ([','].intercalate lines).splitOn ',' = listed lines := by
  induction lines with
  | nil => exact absurd rfl hne
  | cons line later ih =>
      cases later with
      | nil => simp [listed]
      | cons next later =>
          rw [List.intercalate_cons_cons, List.append_assoc, List.singleton_append,
            splitOn_append_cons, ih (List.cons_ne_nil next later)]
          rfl

/-- The first entry of joined lines, as it is looked for. -/
theorem firstListed?_intercalate (lines : List (List Char)) :
    firstListed? ([','].intercalate lines) =
      ((listed lines).map trimBlanks).find? fun entry => !entry.isEmpty := by
  by_cases hne : lines = []
  · rw [hne]
    rfl
  · rw [firstListed?, segments_eq_splitOn, splitOn_intercalate hne]

theorem firstListed?_eq_some_iff :
    firstListed? ([','].intercalate lines) = some entry ↔ ListsFirst lines entry := by
  have hblank : ∀ part, (!(!(trimBlanks part).isEmpty)) = true ↔ ∀ char ∈ part, isBlank char := by
    intro part
    rw [Bool.not_not, List.isEmpty_iff, trimBlanks_eq_iff, trims_nil_iff]
  rw [firstListed?_intercalate, List.find?_map, Option.map_eq_some_iff]
  simp only [List.find?_eq_some_iff_append, Function.comp_apply, hblank]
  constructor
  · rintro ⟨part, ⟨hne, before, after, hlisted, hbefore⟩, rfl⟩
    exact ⟨before, part, after, hlisted, hbefore, trims_trimBlanks part, by simpa using hne⟩
  · rintro ⟨before, part, after, hlisted, hbefore, htrims, hne⟩
    rw [← htrims.trimBlanks_eq] at hne
    exact ⟨part, ⟨by simpa using hne, before, after, hlisted, hbefore⟩, htrims.trimBlanks_eq⟩

theorem firstListed?_eq_none_iff :
    firstListed? ([','].intercalate lines) = none ↔ ListsNothing lines := by
  rw [firstListed?_intercalate, List.find?_map, Option.map_eq_none_iff, List.find?_eq_none]
  refine forall₂_congr fun part hmem => ?_
  rw [Function.comp_apply, Bool.not_eq_true, Bool.not_eq_false', List.isEmpty_iff,
    trimBlanks_eq_iff, trims_nil_iff]

/-- Lines that list an address first list it first whatever lines follow. -/
theorem ListsFirst.append (hfirst : ListsFirst lines entry) (later : List (List Char)) :
    ListsFirst (lines ++ later) entry := by
  obtain ⟨before, part, after, hlisted, hbefore, htrims, hne⟩ := hfirst
  -- what follows the lines comes after the part
  refine ⟨before, part, after ++ listed later, ?_, hbefore, htrims, hne⟩
  rw [listed, List.flatMap_append, ← listed, hlisted, ← listed, List.append_assoc,
    List.cons_append]

/-- Lines list one address first. -/
theorem ListsFirst.unique {other : List Char} (hfirst : ListsFirst lines entry)
    (hother : ListsFirst lines other) : entry = other :=
  Option.some.inj ((firstListed?_eq_some_iff.mpr hfirst).symm.trans
    (firstListed?_eq_some_iff.mpr hother))

theorem ListsFirst.not_listsNothing (hfirst : ListsFirst lines entry) : ¬ ListsNothing lines := by
  rw [← firstListed?_eq_none_iff, firstListed?_eq_some_iff.mpr hfirst]
  nofun

/-! ## The announced address -/

/-- The address that is looked for in one line, or else that of the peer. -/
def addressIn (line : List Char) (peer? : Option IpAddress) : String :=
  ((firstListed? line).map String.ofList).getD (peerAddress peer?)

/-- What is found in a line is what the lines announce that it joins. -/
theorem addressIn_intercalate_eq_iff :
    addressIn ([','].intercalate lines) peer? = address ↔ Announced lines peer? address := by
  unfold addressIn Announced
  simp only [← firstListed?_eq_some_iff, ← firstListed?_eq_none_iff]
  cases firstListed? ([','].intercalate lines) with
  | none => simp [eq_comm]
  | some entry => simp [eq_comm]

/-- When the first lines announce the same as all lines. -/
theorem Announced.eq_iff {first later : List (List Char)} {other : String}
    (hfirst : Announced first peer? address) (hall : Announced (first ++ later) peer? other) :
    address = other ↔
      (∃ entry, ListsFirst first entry) ∨ ListsNothing (first ++ later) ∨
        ∃ entry, ListsFirst (first ++ later) entry ∧ String.ofList entry = peerAddress peer? := by
  rcases hall with ⟨named, hnamed, rfl⟩ | ⟨hall, rfl⟩
  · -- some line lists an address: the first lines list the same one, or nothing
    rw [or_iff_right hnamed.not_listsNothing]
    rcases hfirst with ⟨entry, hlists, rfl⟩ | ⟨hnothing, rfl⟩
    · rw [(hlists.append later).unique hnamed]
      exact iff_of_true rfl (Or.inl ⟨entry, hlists⟩)
    · rw [or_iff_right fun ⟨entry, hlists⟩ => hlists.not_listsNothing hnothing]
      refine ⟨fun heq => ⟨named, hnamed, heq.symm⟩, fun ⟨entry, hlists, heq⟩ => ?_⟩
      rw [← heq, hlists.unique hnamed]
  · rcases hfirst with ⟨entry, hlists, rfl⟩ | ⟨hnothing, rfl⟩
    · exact absurd hall (hlists.append later).not_listsNothing
    · -- nothing is listed anywhere, and both are the address of the peer
      exact iff_of_true rfl (Or.inr (Or.inl hall))

/-! ## Requests -/

/-- Is this a line in which proxies list addresses? -/
def isForwarding (header : String × Octets) : Bool :=
  equalIgnoringCase header.1 "x-forwarded-for"

namespace Request

/-- The contents of the lines in which proxies list addresses. -/
def forwarding (request : Request) : List Octets :=
  (request.headers.filter isForwarding).map Prod.snd

/-- The texts of these lines. -/
def forwarded (request : Request) : List (List Char) :=
  request.forwarding.map (List.map fun octet => Char.ofNat octet.toNat)

/-- The request with these lines joined by commas. -/
def joined (request : Request) : Request :=
  { request with
    headers := request.headers.filter (fun header => !isForwarding header) ++
      [("x-forwarded-for", [0x2C].intercalate request.forwarding)] }

/-- The lines in which proxies list addresses are readable. -/
def ForwardsReadably (request : Request) : Prop :=
  ∀ value ∈ request.forwarding, ∀ octet ∈ value, isVisible octet = true

end Request

variable {request : Request}

/-- Only the first of the lines is read. -/
theorem headerText_forwarded (hreadable : request.ForwardsReadably) :
    headerText request.headers "x-forwarded-for" =
      [','].intercalate (request.forwarded.take 1) := by
  have hfind : (request.headers.find? fun header =>
      equalIgnoringCase header.1 "x-forwarded-for") =
        (request.headers.filter isForwarding).head? := List.head?_filter.symm
  rw [headerText, hfind]
  unfold Request.ForwardsReadably Request.forwarded Request.forwarding at *
  cases hlines : request.headers.filter isForwarding with
  | nil => rfl
  | cons header later =>
      rw [hlines] at hreadable
      have hvisible := List.all_eq_true.mpr (hreadable header.2 (List.mem_cons_self ..))
      simp [hvisible]

theorem callerAddress_eq (request : Request) :
    callerAddress request =
      addressIn (headerText request.headers "x-forwarded-for") request.peer? := by
  unfold callerAddress addressIn
  cases firstListed? (headerText request.headers "x-forwarded-for") with
  | some entry => rfl
  | none => cases request.peer? <;> rfl

/-! ### The request with joined lines -/

theorem map_intercalate {α β : Type} (change : α → β) (separator : List α) (lists : List (List α)) :
    (separator.intercalate lists).map change =
      (separator.map change).intercalate (lists.map (List.map change)) := by
  induction lists with
  | nil => rfl
  | cons first later ih =>
      cases later with
      | nil => simp
      | cons next later =>
          simp only [List.intercalate_cons_cons, List.map_append, List.map_cons] at ih ⊢
          rw [ih]

theorem mem_intercalate {α : Type} {element : α} {separator : List α} {lists : List (List α)}
    (hmem : element ∈ separator.intercalate lists) :
    element ∈ separator ∨ ∃ list ∈ lists, element ∈ list := by
  induction lists with
  | nil => cases hmem
  | cons first later ih =>
      cases later with
      | nil => exact Or.inr ⟨first, List.mem_cons_self .., by simpa using hmem⟩
      | cons next later =>
          rw [List.intercalate_cons_cons, List.mem_append, List.mem_append] at hmem
          rcases hmem with (hfirst | hseparator) | hlater
          · exact Or.inr ⟨first, List.mem_cons_self .., hfirst⟩
          · exact Or.inl hseparator
          · exact (ih hlater).imp_right fun ⟨list, hlist, helement⟩ =>
              ⟨list, List.mem_cons_of_mem _ hlist, helement⟩

/-- The joined line is read as a whole. -/
theorem headerText_joined (hreadable : request.ForwardsReadably) :
    headerText request.joined.headers "x-forwarded-for" = [','].intercalate request.forwarded := by
  have hothers : (request.headers.filter fun header => !isForwarding header).find? (fun header =>
      equalIgnoringCase header.1 "x-forwarded-for") = none := by
    refine List.find?_eq_none.mpr fun header hmem hforwarding => ?_
    have hnot := (List.mem_filter.mp hmem).2
    rw [isForwarding, hforwarding] at hnot
    cases hnot
  have hvisible : ([0x2C].intercalate request.forwarding).all isVisible = true := by
    refine List.all_eq_true.mpr fun octet hmem => ?_
    -- the commas are visible as well as what they join
    rcases mem_intercalate hmem with hcomma | ⟨value, hvalue, hoctet⟩
    · rw [List.mem_singleton.mp hcomma]
      rfl
    · exact hreadable value hvalue octet hoctet
  have hself : equalIgnoringCase "x-forwarded-for" "x-forwarded-for" = true :=
    (equalIgnoringCase_iff _ _).mpr rfl
  rw [headerText, Request.joined, List.find?_append, hothers, Option.none_or,
    List.find?_singleton, if_pos hself]
  dsimp only
  rw [if_pos hvisible, map_intercalate]
  rfl

/-- Joining the lines leaves all other header lines as they are. -/
theorem headerText_joined_of_ne {name : String}
    (hname : equalIgnoringCase name "x-forwarded-for" = false) :
    headerText request.joined.headers name = headerText request.headers name := by
  have hother : ∀ header : String × Octets, equalIgnoringCase header.1 name = true →
      isForwarding header = false := by
    intro header heq
    rw [← hname, isForwarding, Bool.eq_iff_iff, equalIgnoringCase_iff, equalIgnoringCase_iff,
      (equalIgnoringCase_iff _ _).mp heq]
  have hfind : request.joined.headers.find? (fun header => equalIgnoringCase header.1 name) =
      request.headers.find? fun header => equalIgnoringCase header.1 name := by
    have hjoined : equalIgnoringCase "x-forwarded-for" name = false := by
      rw [← hname, Bool.eq_iff_iff, equalIgnoringCase_iff, equalIgnoringCase_iff, eq_comm]
    rw [Request.joined, List.find?_append, List.find?_filter,
      List.find?_cons_of_neg (by simp [hjoined]), List.find?_nil, Option.or_none]
    congr 1
    funext header
    cases heq : equalIgnoringCase header.1 name with
    | false => simp
    | true => simp [hother header heq]
  rw [headerText, headerText, hfind]

/-- Joining the lines changes whose address the request carries, and nothing else. -/
theorem read_joined_eq (request : Request) :
    read request.joined =
      (read request).map fun (target, relay) =>
        (target, { relay with ip := callerAddress request.joined }) := by
  have horigin : headerText request.joined.headers "origin" = headerText request.headers "origin" :=
    headerText_joined_of_ne (by decide +kernel)
  have hrequest : ∀ target payload, relayRequest target request.joined payload =
      { relayRequest target request payload with ip := callerAddress request.joined } := by
    intro target payload
    cases target <;> simp only [relayRequest, horigin]
  -- nothing but the header lines has changed
  have hmethod : request.joined.method = request.method := rfl
  have huri : request.joined.uri = request.uri := rfl
  have hbody : request.joined.body = request.body := rfl
  simp only [read_eq, hmethod, huri, hbody, hrequest]
  split
  · cases Target.ofPath (pathOfUri request.uri) with
    | error error => rfl
    | ok target => cases Payload.ofBody request.body <;> rfl
  · rfl

theorem ip_of_read {target : Target} {relay : RelayRequest}
    (hread : read request = .ok (target, relay)) : relay.ip = callerAddress request := by
  rw [read_eq] at hread
  split at hread
  · obtain ⟨addressed, -, hread⟩ := bind_eq_ok_iff.mp hread
    obtain ⟨payload, -, hread⟩ := map_eq_ok_iff.mp hread
    obtain ⟨rfl, rfl⟩ := Prod.mk.inj hread
    cases addressed <;> rfl
  · cases hread

theorem announced_callerAddress (hreadable : request.ForwardsReadably) :
    Announced (request.forwarded.take 1) request.peer? (callerAddress request) := by
  rw [← addressIn_intercalate_eq_iff, callerAddress_eq, headerText_forwarded hreadable]

theorem announced_callerAddress_joined (hreadable : request.ForwardsReadably) :
    Announced request.forwarded request.peer? (callerAddress request.joined) := by
  rw [← addressIn_intercalate_eq_iff, callerAddress_eq, headerText_joined hreadable]
  rfl

/-- **Whose address a request carries.**  A request carries the address that its first line
announces.  The address that all its lines announce is carried by the request with these lines
joined, which is otherwise the same.  The two addresses agree exactly if the first line lists one,
or no line does, or the one that is listed first is that of the peer. -/
theorem read_joined {target : Target} {relay : RelayRequest}
    (hreadable : request.ForwardsReadably) (hread : read request = .ok (target, relay)) :
    Announced (request.forwarded.take 1) request.peer? relay.ip ∧
    ∃ ip, Announced request.forwarded request.peer? ip ∧
      read request.joined = .ok (target, { relay with ip }) ∧
      (relay.ip = ip ↔
        (∃ entry, ListsFirst (request.forwarded.take 1) entry) ∨
          ListsNothing request.forwarded ∨
          ∃ entry, ListsFirst request.forwarded entry ∧
            String.ofList entry = peerAddress request.peer?) := by
  have hfirst := announced_callerAddress hreadable
  have hall := announced_callerAddress_joined hreadable
  rw [ip_of_read hread]
  refine ⟨hfirst, callerAddress request.joined, hall, ?_, ?_⟩
  · rw [read_joined_eq, hread]
    rfl
  · have hsplit := List.take_append_drop 1 request.forwarded
    rw [← hsplit] at hall
    rw [hfirst.eq_iff hall, hsplit]

/-! ## Lines that are overlooked -/

/-- A request with the given lines, from a peer with the address `192.0.2.1`. -/
def forwardedBy (lines : List String) : Request :=
  { posted "/v1/a" with
    headers := lines.map fun line => ("x-forwarded-for", Utf8.encode line)
    peer? := some (.v4 192 0 2 1) }

theorem forwarding_forwardedBy (lines : List String) :
    (forwardedBy lines).forwarding = lines.map Utf8.encode := by
  have hall : ∀ header ∈ (forwardedBy lines).headers, isForwarding header = true := by
    intro header hmem
    obtain ⟨line, -, rfl⟩ := List.mem_map.mp hmem
    exact (equalIgnoringCase_iff _ _).mpr rfl
  rw [Request.forwarding, List.filter_eq_self.mpr hall, forwardedBy, List.map_map]
  rfl

/-- Whatever the lines are, the request can be read. -/
theorem exists_read_forwardedBy (lines : List String) :
    ∃ target relay, read (forwardedBy lines) = .ok (target, relay) := by
  have htarget : (Target.ofPath (pathOfUri (posted "/v1/a").uri)).toOption.isSome = true := by
    decide +kernel
  have hpayload : (Payload.ofBody (posted "/v1/a").body).toOption.isSome = true := by
    decide +kernel
  obtain ⟨target, htarget⟩ := Option.isSome_iff_exists.mp htarget
  obtain ⟨payload, hpayload⟩ := Option.isSome_iff_exists.mp hpayload
  rw [toOption_eq_some_iff] at htarget hpayload
  refine ⟨target, relayRequest target (forwardedBy lines) payload, ?_⟩
  rw [read_eq, if_pos (by rfl), bind_eq_ok_iff]
  exact ⟨target, htarget, map_eq_ok_iff.mpr ⟨payload, hpayload, rfl⟩⟩

/-- Its first line lists nothing, and its second line lists an address behind an empty part and
between blanks. -/
def threeLines : Request := forwardedBy [" ,", ", 10.0.0.9\t,x", "10.0.0.1"]

/-- The general statement at this request: it carries the address of the peer, and with the lines
joined it carries the one that is listed first. -/
theorem read_joined_three :
    threeLines.ForwardsReadably ∧ ∃ target relay, read threeLines = .ok (target, relay) ∧
      relay.ip = "192.0.2.1" ∧
      read threeLines.joined = .ok (target, { relay with ip := "10.0.0.9" }) := by
  have hreadable : threeLines.ForwardsReadably := by
    rw [Request.ForwardsReadably, threeLines, forwarding_forwardedBy]
    decide +kernel
  have hpeer : addressIn ([','].intercalate (threeLines.forwarded.take 1)) threeLines.peer? =
      "192.0.2.1" := by
    rw [Request.forwarded, threeLines, forwarding_forwardedBy]
    decide +kernel
  have hlisted : addressIn ([','].intercalate threeLines.forwarded) threeLines.peer? =
      "10.0.0.9" := by
    rw [Request.forwarded, threeLines, forwarding_forwardedBy]
    decide +kernel
  obtain ⟨target, relay, hread⟩ := exists_read_forwardedBy [" ,", ", 10.0.0.9\t,x", "10.0.0.1"]
  obtain ⟨hfirst, ip, hall, hjoined, -⟩ := read_joined hreadable hread
  rw [← addressIn_intercalate_eq_iff, hpeer] at hfirst
  rw [← addressIn_intercalate_eq_iff, hlisted] at hall
  rw [← hall] at hjoined
  exact ⟨hreadable, target, relay, hread, hfirst.symm, hjoined⟩

/-- Its first line is empty. -/
def emptyFirst : Request := forwardedBy ["", "10.0.0.1"]

/-- It carries the address of the peer, although its second line lists an address, and the request
with the two lines joined carries that one. -/
theorem second_line_overlooked :
    emptyFirst.ForwardsReadably ∧ ListsFirst emptyFirst.forwarded "10.0.0.1".toList ∧
      (∃ target relay, read emptyFirst = .ok (target, relay) ∧ relay.ip = "192.0.2.1") ∧
      ∃ target relay, read emptyFirst.joined = .ok (target, relay) ∧ relay.ip = "10.0.0.1" := by
  have hreadable : emptyFirst.ForwardsReadably := by
    rw [Request.ForwardsReadably, emptyFirst, forwarding_forwardedBy]
    decide +kernel
  have hlists : firstListed? ([','].intercalate emptyFirst.forwarded) =
      some "10.0.0.1".toList := by
    rw [Request.forwarded, emptyFirst, forwarding_forwardedBy]
    decide +kernel
  have hpeer : addressIn ([','].intercalate (emptyFirst.forwarded.take 1)) emptyFirst.peer? =
      "192.0.2.1" := by
    rw [Request.forwarded, emptyFirst, forwarding_forwardedBy]
    decide +kernel
  obtain ⟨target, relay, hread⟩ := exists_read_forwardedBy ["", "10.0.0.1"]
  have hjoined : read emptyFirst.joined =
      .ok (target, { relay with ip := callerAddress emptyFirst.joined }) := by
    rw [read_joined_eq, emptyFirst, hread]
    rfl
  refine ⟨hreadable, firstListed?_eq_some_iff.mp hlists, ⟨target, relay, hread, ?_⟩,
    target, _, hjoined, ?_⟩
  · rw [ip_of_read hread, ← hpeer, callerAddress_eq]
    exact congrArg (addressIn · _) (headerText_forwarded hreadable)
  · show callerAddress emptyFirst.joined = "10.0.0.1"
    rw [callerAddress_eq, headerText_joined hreadable, addressIn, hlists, Option.map_some,
      Option.getD_some, String.ofList_toList]

end ChainGateway.FrontDoor
