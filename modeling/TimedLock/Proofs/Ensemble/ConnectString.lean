import Mathlib.Data.List.Forall2
import TimedLock.Ensemble.ConnectString
import TimedLock.Proofs.Text.Reading

/-!
# Connect strings, written and read

**Theorem (`servers_connectString`).** A connect string reads back: however its servers are padded
with blank characters, whatever blank parts stand between them, and whatever path follows the first
slash, the servers that were written are read in their order. A host may be empty and may have
colons in it, if a port follows it; a bare host is read with the default port.

Nothing that is added interferes, since blank characters are neither commas nor slashes nor colons,
and the digits of a port are none of these either: the slash of the path is the first one, the
commas are those between the parts, trimming a part gives what was written
(`trim_part`), and the last colon of a server is the one before its port.

What reading an item comes to is said by a relation (`Reads`), so a connect string is read exactly
if all its items are (`servers_eq_ok_iff`).
-/

namespace TimedLock.Ensemble

open Text (isBlank)

/-! ## What is read -/

/-- The text of an item reads as a server. -/
inductive Reads : List Char → Server → Prop
  /-- A host alone. -/
  | alone {item : List Char} : ':' ∉ item → Reads item ⟨String.ofList item, defaultPort⟩
  /-- A host and a port, with the last colon between them. -/
  | withPort {host port : List Char} {n : Int} : ':' ∉ port → Text.readInteger port = .ok n →
      Reads (host ++ ':' :: port) ⟨String.ofList host, n⟩

variable {item cs : List Char} {x : Server} {found : List Server}

theorem readPort_eq_ok_iff {n : Int} : readPort cs = .ok n ↔ Text.readInteger cs = .ok n := by
  unfold readPort
  cases Text.readInteger cs with
  | ok m => simp
  | error why => cases why <;> simp

theorem readServer_eq_ok_iff : readServer item = .ok x ↔ Reads item x := by
  unfold readServer
  constructor
  · intro h
    cases hcut : Text.cutAtLast? ':' item with
    | none =>
      rw [hcut] at h
      cases h
      exact .alone (Text.cutAtLast?_eq_none_iff.1 hcut)
    | some cut =>
      obtain ⟨host, port⟩ := cut
      rw [hcut] at h
      obtain ⟨rfl, hport⟩ := Text.cutAtLast?_eq_some_iff.1 hcut
      cases hn : readPort port with
      | error fault => simp [hn, Except.map] at h
      | ok n =>
        simp only [hn, Except.map, Except.ok.injEq] at h
        subst h
        exact .withPort hport (readPort_eq_ok_iff.1 hn)
  · intro h
    cases h with
    | alone hcolon => rw [Text.cutAtLast?_eq_none hcolon]
    | withPort hport hn =>
      rw [Text.cutAtLast?_append_cons _ hport]
      simp only [readPort_eq_ok_iff.2 hn, Except.map]

theorem mapM_eq_ok_iff {α β : Type} {f : α → Except Fault β} {xs : List α} {ys : List β} :
    xs.mapM f = .ok ys ↔ List.Forall₂ (fun x y => f x = .ok y) xs ys := by
  induction xs generalizing ys with
  | nil => cases ys <;> simp [pure, Except.pure]
  | cons x rest ih =>
    rw [List.mapM_cons, List.forall₂_cons_left_iff]
    cases hx : f x with
    | error fault => simp [bind, Except.bind]
    | ok y =>
      cases hrest : rest.mapM f with
      | error fault => simp [bind, Except.bind, ← ih, hrest]
      | ok others => simp [bind, Except.bind, pure, Except.pure, ← ih, hrest, eq_comm]

theorem parse_eq_ok_iff : parse cs = .ok found ↔ List.Forall₂ Reads (items cs) found := by
  rw [parse, mapM_eq_ok_iff]
  simp only [readServer_eq_ok_iff]

theorem servers_eq_ok_iff {s : String} :
    servers (.text s) = .ok found ↔ List.Forall₂ Reads (items s.toList) found := parse_eq_ok_iff

/-! ## What is written -/

/-- A server as it is written. -/
inductive Written
  /-- A host, a colon and a port. -/
  | withPort (server : Server)
  /-- A host alone. -/
  | alone (host : String)

/-- Blank text. -/
def IsGap (s : String) : Prop := ∀ c ∈ s.toList, isBlank c = true

/-- Text that holds neither what ends a server nor what ends the servers. -/
def HasNoMark (s : String) : Prop := ',' ∉ s.toList ∧ '/' ∉ s.toList

namespace Written

def text : Written → String
  | withPort server => server.address
  | alone host => host

/-- The server that is meant. -/
def server : Written → Server
  | withPort server => server
  | alone host => ⟨host, defaultPort⟩

/-- What a server must be like to be read again. -/
def Legible : Written → Prop
  | withPort ⟨host, port⟩ => HasNoMark host ∧ (∀ c ∈ host.toList.head?, isBlank c = false) ∧
      (toString port.natAbs).length ≤ Text.maxIntegerDigits
  | alone host => HasNoMark host ∧ ':' ∉ host.toList ∧ host ≠ "" ∧
      Text.Tight isBlank host.toList

end Written

/-- What stands between two commas of a connect string. -/
inductive Part
  | gap (blank : String)
  /-- A server with blank text around it. -/
  | padded (left : String) (written : Written) (right : String)

namespace Part

def text : Part → String
  | gap blank => blank
  | padded left written right => left ++ written.text ++ right

def written? : Part → Option Written
  | gap _ => none
  | padded _ written _ => some written

def Legible : Part → Prop
  | gap blank => IsGap blank
  | padded left written right => IsGap left ∧ written.Legible ∧ IsGap right

end Part

/-- A connect string of some parts, maybe with a path. -/
def connectString (parts : List Part) (path : Option String) : String :=
  ",".intercalate (parts.map Part.text) ++ (path.map ("/" ++ ·)).getD ""

/-! ## Parts on their own -/

theorem toList_address (x : Server) :
    x.address.toList = x.host.toList ++ ':' :: (toString x.port).toList := by
  have hcolon : ":".toList = [':'] := rfl
  show (x.host ++ ":" ++ toString x.port).toList = _
  rw [String.toList_append, String.toList_append, hcolon, List.append_assoc,
    List.singleton_append]

/-- The text of a port consists of digits, maybe after a minus sign. -/
theorem mem_toString_port {n : Int} {c : Char} (h : c ∈ (toString n).toList) :
    c = '-' ∨ c.isDigit = true := by
  rw [Text.toList_toString, Text.minus] at h
  rcases List.mem_append.1 h with h | h
  · split at h
    · exact .inl (List.mem_singleton.1 h)
    · cases h
  · exact .inr (Text.isDigit_of_mem_toDigits h)

theorem not_isBlank_of_mem_port {n : Int} {c : Char} (h : c ∈ (toString n).toList) :
    isBlank c = false := by
  rcases mem_toString_port h with rfl | hdigit
  · decide
  · obtain ⟨hlow, hhigh⟩ := Text.toNat_of_isDigit hdigit
    simp [isBlank]
    omega

theorem colon_not_mem_port (n : Int) : ':' ∉ (toString n).toList := fun h => by
  rcases mem_toString_port h with h | h <;> exact absurd h (by decide)

theorem ne_nil_toString (n : Int) : (toString n).toList ≠ [] := by
  rw [Text.toList_toString]
  exact List.append_ne_nil_of_right_ne_nil _ Nat.toDigits_ne_nil

namespace Written

variable {w : Written}

/-- What is legible reads as the server that is meant. -/
theorem Legible.reads (h : w.Legible) : Reads w.text.toList w.server := by
  cases w with
  | withPort x =>
    obtain ⟨-, -, hdigits⟩ := h
    have hread : Reads (x.host.toList ++ ':' :: (toString x.port).toList)
        ⟨String.ofList x.host.toList, x.port⟩ :=
      .withPort (colon_not_mem_port x.port) (Text.readInteger_toString hdigits)
    rwa [String.ofList_toList, ← toList_address] at hread
  | alone host =>
    obtain ⟨-, hcolon, -⟩ := h
    have hread := Reads.alone hcolon
    rwa [String.ofList_toList] at hread

theorem Legible.ne_nil (h : w.Legible) : w.text.toList ≠ [] := by
  cases w with
  | withPort x =>
    show x.address.toList ≠ []
    rw [toList_address]
    simp
  | alone host => exact fun hnil => h.2.2.1 (String.toList_eq_nil_iff.1 hnil)

theorem Legible.tight (h : w.Legible) : Text.Tight isBlank w.text.toList := by
  cases w with
  | alone host => exact h.2.2.2
  | withPort x =>
    obtain ⟨-, hhead, -⟩ := h
    show Text.Tight isBlank x.address.toList
    rw [toList_address]
    constructor
    · intro c hc
      cases hhost : x.host.toList with
      | nil =>
        rw [hhost] at hc
        obtain rfl : ':' = c := Option.some.inj hc
        decide
      | cons d rest =>
        rw [hhost] at hc
        exact hhead c (hhost ▸ hc)
    · intro c hc
      rw [List.getLast?_append_cons, List.getLast?_cons_of_ne_nil (ne_nil_toString x.port)] at hc
      exact not_isBlank_of_mem_port (List.mem_of_mem_getLast? hc)

theorem Legible.hasNoMark (h : w.Legible) : HasNoMark w.text := by
  cases w with
  | alone host => exact h.1
  | withPort x =>
    obtain ⟨⟨hcomma, hslash⟩, -⟩ := h
    have hport {c : Char} (hminus : c ≠ '-') (hdigit : c.isDigit = false) :
        c ∉ (toString x.port).toList := fun hmem => by
      rcases mem_toString_port hmem with rfl | hmem
      · exact hminus rfl
      · rw [hdigit] at hmem
        cases hmem
    show ',' ∉ x.address.toList ∧ '/' ∉ x.address.toList
    rw [toList_address]
    simp only [List.mem_append, List.mem_cons, not_or]
    exact ⟨⟨hcomma, by decide, hport (by decide) rfl⟩, hslash, by decide, hport (by decide) rfl⟩

end Written

theorem IsGap.not_mem {s : String} (h : IsGap s) {c : Char} (hc : isBlank c = false) :
    c ∉ s.toList := fun hmem => by
  rw [h c hmem] at hc
  cases hc

theorem IsGap.hasNoMark {s : String} (h : IsGap s) : HasNoMark s :=
  ⟨h.not_mem (by decide), h.not_mem (by decide)⟩

namespace Part

variable {part : Part}

theorem Legible.hasNoMark (h : part.Legible) : HasNoMark part.text := by
  cases part with
  | gap blank => exact IsGap.hasNoMark h
  | padded left written right =>
    obtain ⟨hleft, hwritten, hright⟩ := h
    simp only [HasNoMark, text, String.toList_append, List.mem_append, not_or]
    exact ⟨⟨⟨hleft.hasNoMark.1, hwritten.hasNoMark.1⟩, hright.hasNoMark.1⟩,
      ⟨hleft.hasNoMark.2, hwritten.hasNoMark.2⟩, hright.hasNoMark.2⟩

/-- Trimming a part gives the server that is written in it, or nothing. -/
theorem trim_part (h : part.Legible) :
    Text.trim part.text.toList = (part.written?.map (·.text.toList)).getD [] := by
  cases part with
  | gap blank => exact (Text.trim_eq_nil_iff _).2 h
  | padded left written right =>
    obtain ⟨hleft, hwritten, hright⟩ := h
    simp only [text, String.toList_append]
    exact Text.trimBy_padded hleft hright hwritten.tight

end Part

/-! ## All parts -/

variable {parts : List Part}

theorem not_mem_intercalate {c : Char} {ps : List (List Char)} (hc : c ≠ ',')
    (h : ∀ p ∈ ps, c ∉ p) : c ∉ [','].intercalate ps := by
  induction ps with
  | nil => simp
  | cons p rest ih =>
    cases rest with
    | nil => simpa using h p List.mem_cons_self
    | cons q others =>
      have hrest := ih fun r hr => h r (List.mem_cons_of_mem p hr)
      simp [List.intercalate_cons_cons, h p List.mem_cons_self, hc, hrest]

/-- Text without slashes stands before the path. -/
theorem forall_ne_slash (h : '/' ∉ cs) : ∀ c ∈ cs, decide (c ≠ '/') = true := by
  intro c hc
  simpa using fun heq : c = '/' => h (heq ▸ hc)

/-- The slash of the path is the first one. -/
theorem takeWhile_connectString (h : ∀ part ∈ parts, part.Legible) (path : Option String) :
    (connectString parts path).toList.takeWhile (· ≠ '/')
      = [','].intercalate (parts.map (·.text.toList)) := by
  have hslash : '/' ∉ [','].intercalate (parts.map (·.text.toList)) := by
    refine not_mem_intercalate (by decide) fun p hp => ?_
    obtain ⟨part, hpart, rfl⟩ := List.mem_map.1 hp
    exact (h part hpart).hasNoMark.2
  have hcomma : ",".toList = [','] := rfl
  have hmark : "/".toList = ['/'] := rfl
  simp only [connectString, String.toList_append, String.toList_intercalate, hcomma, List.map_map,
    Function.comp_def]
  rw [List.takeWhile_append_of_pos (forall_ne_slash hslash)]
  cases path with
  | none => simp
  | some path => simp [hmark]

/-- The items of a connect string are what is written in its parts. -/
theorem items_connectString (h : ∀ part ∈ parts, part.Legible) (path : Option String) :
    items (connectString parts path).toList
      = (parts.filterMap Part.written?).map (·.text.toList) := by
  have hpieces : items (connectString parts path).toList
      = ((parts.map (·.text.toList)).map Text.trim).filter (!·.isEmpty) := by
    rw [items, takeWhile_connectString h path]
    cases parts with
    | nil => rfl
    | cons part rest =>
      rw [Text.pieces_intercalate (by simp)]
      intro p hp
      obtain ⟨part', hpart, rfl⟩ := List.mem_map.1 hp
      exact (h part' hpart).hasNoMark.1
  rw [hpieces]
  clear hpieces
  -- what is left of each part is its server, which is never empty, or nothing
  induction parts with
  | nil => rfl
  | cons part rest ih =>
    have hrest := ih fun p hp => h p (List.mem_cons_of_mem part hp)
    have hlegible := h part List.mem_cons_self
    rw [List.map_cons, List.map_cons, Part.trim_part hlegible]
    cases part with
    | gap blank => exact hrest
    | padded left written right =>
      have hne : written.text.toList ≠ [] := hlegible.2.1.ne_nil
      simp only [Part.written?, Option.map_some, Option.getD_some, List.filterMap_cons,
        List.map_cons, List.filter_cons, List.isEmpty_eq_false_iff.2 hne, Bool.not_false, if_true,
        hrest]

/-- **A connect string reads back.** -/
theorem servers_connectString (h : ∀ part ∈ parts, part.Legible) (path : Option String) :
    servers (.text (connectString parts path))
      = .ok ((parts.filterMap Part.written?).map Written.server) := by
  rw [servers_eq_ok_iff, items_connectString h path, List.forall₂_map_left_iff,
    List.forall₂_map_right_iff, List.forall₂_same]
  intro written hwritten
  obtain ⟨part, hpart, hsome⟩ := List.mem_filterMap.1 hwritten
  cases part with
  | gap blank => cases hsome
  | padded left written' right =>
    obtain rfl : written' = written := Option.some.inj hsome
    exact (h _ hpart).2.1.reads

/-- An address that is full of colons, a bare host and a port below zero, with blank characters
around and between them. -/
def mixedParts : List Part :=
  [.padded " " (.withPort ⟨"::1", 80⟩) "\t", .gap "", .padded "" (.alone "zk") "\u00a0", .gap " ",
   .padded "" (.withPort ⟨"", -5⟩) ""]

theorem mixedParts_read_back :
    (∀ part ∈ mixedParts, part.Legible) ∧
      connectString mixedParts (some "app/a,b:c") = " ::1:80\t,,zk\u00a0, ,:-5/app/a,b:c" ∧
      servers (.text " ::1:80\t,,zk\u00a0, ,:-5/app/a,b:c")
        = .ok [⟨"::1", 80⟩, ⟨"zk", 2181⟩, ⟨"", -5⟩] := by
  have hhost : Text.Tight isBlank ['z', 'k'] :=
    ⟨fun _ hc => Option.some.inj hc ▸ rfl, fun _ hc => Option.some.inj hc ▸ rfl⟩
  have hlegible : ∀ part ∈ mixedParts, part.Legible := by
    simp [mixedParts, Part.Legible, Written.Legible, IsGap, HasNoMark, hhost]
    decide
  have htext : connectString mixedParts (some "app/a,b:c")
      = " ::1:80\t,,zk\u00a0, ,:-5/app/a,b:c" := by decide
  have hread := servers_connectString hlegible (some "app/a,b:c")
  rw [htext] at hread
  exact ⟨hlegible, htext, hread⟩

end TimedLock.Ensemble
