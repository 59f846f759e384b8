import SurfaceBridge.Proofs.Editor.Saving
import SurfaceBridge.Proofs.Json.Fields
import SurfaceBridge.Proofs.Server.PortNumerals
import SurfaceBridge.Terminal.Configuration

set_option autoImplicit false

/-! # Which setting counts

A configuration is `Layered`: each setting comes from the first place that gives it. Where the file
comes in, the setting is what stands at its path in the tables of the file, and its usual value if
nothing stands there. The paths are followed one by one, so a table that gives some of its settings
leaves the others at their usual values.

A configuration is resolved exactly if the file and the port in the environment can be read, and
then it is the one that is layered (`layered_of_resolve`).
-/

namespace SurfaceBridge

/-! ## Places -/

/-- A value from a place if there is one, and otherwise one from the places behind it. -/
inductive Prefer {α : Type} (place : Option α) (behind : α → Prop) : α → Prop
  | here {a : α} (given : place = some a) : Prefer place behind a
  | next {a : α} (missing : place = none) (given : behind a) : Prefer place behind a

/-- What a decoder makes of a value if there is one, and otherwise the usual value. -/
inductive Json.Decoder.OrUsual {α : Type} (d : Json.Decoder α) (usual : α) : Option Json → α → Prop
  | given {v : Json} {a : α} (decodes : d.fromValue v = .ok a) : OrUsual d usual (some v) a
  | leftOut : OrUsual d usual none usual

section

variable {α : Type}

theorem Prefer.unique {place : Option α} {behind : α → Prop}
    (unique : ∀ {a b}, behind a → behind b → a = b) {a b : α} (h : Prefer place behind a)
    (h' : Prefer place behind b) : a = b := by
  rcases h with ha | ⟨ha, hbehind⟩ <;> rcases h' with hb | ⟨hb, hbehind'⟩
  · exact Option.some.inj (ha.symm.trans hb)
  · cases ha.symm.trans hb
  · cases ha.symm.trans hb
  · exact unique hbehind hbehind'

theorem Prefer.getD {place : Option α} {behind : α → Prop} {a : α} (h : behind a) :
    Prefer place behind (place.getD a) := by
  cases place with
  | none => exact .next rfl h
  | some b => exact .here rfl

namespace Json.Decoder

variable {d : Json.Decoder α} {usual : α} {v : Option Json}

theorem OrUsual.unique {a b : α} (h : d.OrUsual usual v a) (h' : d.OrUsual usual v b) : a = b := by
  cases h with
  | leftOut =>
      cases h'
      rfl
  | given ha =>
      cases h' with
      | given hb => exact Except.ok.inj (ha.symm.trans hb)

theorem Holds.orUsual {o : Option α} (h : d.Holds v o) : d.OrUsual usual v (o.getD usual) := by
  cases h with
  | leftOut => exact .leftOut
  | given decodes => exact .given decodes

theorem Holds.getD_eq_true {v : Option Json} {o : Option Bool} (h : boolean.Holds v o) :
    o.getD false = true ↔ v = some (.boolean true) := by
  cases h with
  | leftOut => simp
  | @given w b decodes =>
      cases w with
      | boolean c =>
          cases decodes
          simp
      | _ => cases decodes

end Json.Decoder

end

/-! ## Tables of the file -/

namespace Server

theorem ReconnectOptions.keeps_schema (acceptsMore : Bool) :
    (schema acceptsMore).Keeps ⟨"min_delay_ms", 0⟩ milliseconds Draft.minDelay
      ∧ (schema acceptsMore).Keeps ⟨"max_delay_ms", 1⟩ milliseconds Draft.maxDelay
      ∧ (schema acceptsMore).Keeps ⟨"growth_factor", 2⟩ .real Draft.growthFactor
      ∧ (schema acceptsMore).Keeps ⟨"max_retries", 3⟩ retryLimit Draft.maxRetries
      ∧ (schema acceptsMore).Keeps ⟨"connection_timeout_ms", 4⟩ milliseconds
        Draft.connectionTimeout := by
  refine ⟨?_, ?_, ?_, ?_, ?_⟩
  all_goals
    refine ⟨⟨_, rfl, fun _ _ => rfl⟩, ?_, rfl⟩
    iterate 4 refine Json.Field.forall_spares_cons (by decide) (fun _ _ => rfl) ?_
    exact List.forall_mem_nil _

theorem Settings.keeps_schema (acceptsMore : Bool) :
    (schema acceptsMore).Keeps ⟨"host", 0⟩ .text Draft.host
      ∧ (schema acceptsMore).Keeps ⟨"port", 1⟩ portNumber Draft.port
      ∧ (schema acceptsMore).Keeps ⟨"secure", 2⟩ .boolean Draft.isSecure
      ∧ (schema acceptsMore).Keeps ⟨"page_path", 3⟩ .text Draft.pagePath
      ∧ (schema acceptsMore).Keeps ⟨"service_path", 4⟩ .text Draft.servicePath
      ∧ (schema acceptsMore).Keeps ⟨"initialize_timeout_ms", 5⟩ ReconnectOptions.milliseconds
        Draft.greetingTimeout
      ∧ (schema acceptsMore).Keeps ⟨"client_name", 6⟩ .text Draft.clientName
      ∧ (schema acceptsMore).Keeps ⟨"reconnect", 7⟩
        (ReconnectOptions.schema acceptsMore).decoder Draft.reconnect := by
  refine ⟨?_, ?_, ?_, ?_, ?_, ?_, ?_, ?_⟩
  all_goals
    refine ⟨⟨_, rfl, fun _ _ => rfl⟩, ?_, rfl⟩
    iterate 7 refine Json.Field.forall_spares_cons (by decide) (fun _ _ => rfl) ?_
    exact List.forall_mem_nil _

end Server

theorem Choices.keeps_schema :
    schema.Keeps ⟨"cultures", 0⟩ (.list .text) Draft.cultures
      ∧ schema.Keeps ⟨"languages", 1⟩ (.list .text) Draft.languages := by
  refine ⟨?_, ?_⟩
  all_goals
    refine ⟨⟨_, rfl, fun _ _ => rfl⟩, ?_, rfl⟩
    exact Json.Field.forall_spares_cons (by decide) (fun _ _ => rfl) (List.forall_mem_nil _)

theorem ConfigurationFile.keeps_schema :
    schema.Keeps ⟨"server", 0⟩ (Server.Settings.schema true).decoder Parts.server
      ∧ schema.Keeps ⟨"options", 1⟩ Choices.schema.decoder Parts.choices := by
  refine ⟨?_, ?_⟩
  all_goals
    refine ⟨⟨_, rfl, fun _ _ => rfl⟩, ?_, rfl⟩
    exact Json.Field.forall_spares_cons (by decide) (fun _ _ => rfl) (List.forall_mem_nil _)

/-! ## The four places -/

namespace Configuration

open Json (Slot)

/-- The table of the settings of the connection. -/
def serverTable : List Slot := [⟨"server", 0⟩]

/-- The table of the settings for connecting again. -/
def reconnectTable : List Slot := serverTable ++ [⟨"reconnect", 7⟩]

/-- The table of what the two options offer. -/
def optionsTable : List Slot := [⟨"options", 1⟩]

/-- What a file gives: a table that decodes, or an empty one if there is no file. -/
inductive FromFile : Option (String × StoredFile) → Json → Prop
  | none : FromFile none (.object [])
  | file (path : String) {text : String} {entries : Toml.Entries} {given : ConfigurationFile}
      (reads : Toml.parse text = some entries)
      (decodes : ConfigurationFile.schema.take (Toml.Value.table .headed entries).toJson
        = .ok given) :
      FromFile (some (path, .ofText text)) (Toml.Value.table .headed entries).toJson

/-- The port in the environment: none if the variable is not set, and otherwise the one that its
value writes. -/
inductive FromEnvironment (environment : String → Option String) : Option UInt16 → Prop
  | unset (missing : environment "OV_LANGUAGE_PORT" = none) : FromEnvironment environment none
  | set {value : String} {port : UInt16} (found : environment "OV_LANGUAGE_PORT" = some value)
      (writes : Server.WritesPort port value.toList) : FromEnvironment environment (some port)

/-- A configuration in which each setting comes from the first place that gives it. -/
structure Layered (flags : ServerFlags) (port : Option UInt16) (file : Json) (c : Configuration) :
    Prop where
  host : Prefer flags.host
    (Json.Decoder.text.OrUsual "localhost" (file.find? (serverTable ++ [⟨"host", 0⟩])))
    c.server.host
  port : Prefer flags.port
    (Prefer port
      (Server.Settings.portNumber.OrUsual 3010 (file.find? (serverTable ++ [⟨"port", 1⟩]))))
    c.server.port
  isSecure : c.server.isSecure = true ↔
    flags.isSecure = true ∨ file.find? (serverTable ++ [⟨"secure", 2⟩]) = some (.boolean true)
  pagePath : Prefer flags.pagePath
    (Json.Decoder.text.OrUsual "/" (file.find? (serverTable ++ [⟨"page_path", 3⟩])))
    c.server.pagePath
  servicePath : Json.Decoder.text.OrUsual "ovLanguage"
    (file.find? (serverTable ++ [⟨"service_path", 4⟩])) c.server.servicePath
  greetingTimeout : Server.ReconnectOptions.milliseconds.OrUsual 10000
    (file.find? (serverTable ++ [⟨"initialize_timeout_ms", 5⟩])) c.server.greetingTimeout
  clientName : Json.Decoder.text.OrUsual "ovbridge"
    (file.find? (serverTable ++ [⟨"client_name", 6⟩])) c.server.clientName
  minDelay : Server.ReconnectOptions.milliseconds.OrUsual 1000
    (file.find? (reconnectTable ++ [⟨"min_delay_ms", 0⟩])) c.server.reconnect.minDelay
  maxDelay : Server.ReconnectOptions.milliseconds.OrUsual 10000
    (file.find? (reconnectTable ++ [⟨"max_delay_ms", 1⟩])) c.server.reconnect.maxDelay
  growthFactor : Json.Decoder.real.OrUsual 1.3
    (file.find? (reconnectTable ++ [⟨"growth_factor", 2⟩])) c.server.reconnect.growthFactor
  maxRetries : Server.ReconnectOptions.retryLimit.OrUsual none
    (file.find? (reconnectTable ++ [⟨"max_retries", 3⟩])) c.server.reconnect.maxRetries
  connectionTimeout : Server.ReconnectOptions.milliseconds.OrUsual 10000
    (file.find? (reconnectTable ++ [⟨"connection_timeout_ms", 4⟩]))
    c.server.reconnect.connectionTimeout
  cultures : (Json.Decoder.list .text).OrUsual []
    (file.find? (optionsTable ++ [⟨"cultures", 0⟩])) c.choices.cultures
  languages : (Json.Decoder.list .text).OrUsual []
    (file.find? (optionsTable ++ [⟨"languages", 1⟩])) c.choices.languages

variable {flags : ServerFlags} {port : Option UInt16} {file : Json}

/-- The places leave no choice. -/
theorem Layered.unique {c c' : Configuration} (h : Layered flags port file c)
    (h' : Layered flags port file c') : c = c' := by
  have hsecure : c.server.isSecure = c'.server.isSecure :=
    Bool.eq_iff_iff.2 (h.isSecure.trans h'.isSecure.symm)
  have hhost := h.host.unique Json.Decoder.OrUsual.unique h'.host
  have hport := h.port.unique (Prefer.unique Json.Decoder.OrUsual.unique) h'.port
  have hpage := h.pagePath.unique Json.Decoder.OrUsual.unique h'.pagePath
  -- the settings that come from one decoder alone are identified when the records are taken apart
  obtain ⟨⟨_, _, _, _, _, _, _, ⟨_, _, _, _, _⟩⟩, ⟨_, _⟩⟩ := c
  obtain ⟨⟨_, _, _, _, _, _, _, ⟨_, _, _, _, _⟩⟩, ⟨_, _⟩⟩ := c'
  obtain rfl : _ = _ := hhost
  obtain rfl : _ = _ := hport
  obtain rfl : _ = _ := hsecure
  obtain rfl : _ = _ := hpage
  obtain rfl : _ = _ := h.servicePath.unique h'.servicePath
  obtain rfl : _ = _ := h.greetingTimeout.unique h'.greetingTimeout
  obtain rfl : _ = _ := h.clientName.unique h'.clientName
  obtain rfl : _ = _ := h.minDelay.unique h'.minDelay
  obtain rfl : _ = _ := h.maxDelay.unique h'.maxDelay
  obtain rfl : _ = _ := h.growthFactor.unique h'.growthFactor
  obtain rfl : _ = _ := h.maxRetries.unique h'.maxRetries
  obtain rfl : _ = _ := h.connectionTimeout.unique h'.connectionTimeout
  obtain rfl : _ = _ := h.cultures.unique h'.cultures
  obtain rfl : _ = _ := h.languages.unique h'.languages
  rfl

/-- A file that decodes, the environment and the flags make a layered configuration. -/
theorem layered_apply {given : ConfigurationFile}
    (decodes : ConfigurationFile.schema.take file = .ok given) :
    Layered flags port file
      ⟨flags.apply { Server.Settings.ofDraft given.server with
          port := port.getD (Server.Settings.ofDraft given.server).port },
        .ofDraft given.choices⟩ := by
  obtain ⟨parts, hparts, hholds⟩ := Json.Schema.exists_holds decodes
  cases hparts
  obtain ⟨kserver, kchoices⟩ := ConfigurationFile.keeps_schema
  obtain ⟨khost, kport, ksecure, kpage, kservice, kgreeting, kclient, kreconnect⟩ :=
    Server.Settings.keeps_schema true
  obtain ⟨kmin, kmax, kgrowth, kretries, kconnection⟩ :=
    Server.ReconnectOptions.keeps_schema true
  obtain ⟨kcultures, klanguages⟩ := Choices.keeps_schema
  have hserver : (Server.Settings.schema true).decoder.Holds (file.find? serverTable)
      parts.server := by
    rw [serverTable, ← List.nil_append [_], Json.find?_append]
    exact hholds kserver
  have hchoices : Choices.schema.decoder.Holds (file.find? optionsTable) parts.choices := by
    rw [optionsTable, ← List.nil_append [_], Json.find?_append]
    exact hholds kchoices
  have hreconnect := kreconnect.holds_find? (fun _ => rfl) hserver
  exact
    { host := .getD (khost.holds_find? (fun _ => rfl) hserver).orUsual
      port := .getD (.getD (kport.holds_find? (fun _ => rfl) hserver).orUsual)
      isSecure := by
        rw [← (ksecure.holds_find? (fun _ => rfl) hserver).getD_eq_true]
        exact Bool.or_eq_true_iff
      pagePath := .getD (kpage.holds_find? (fun _ => rfl) hserver).orUsual
      servicePath := (kservice.holds_find? (fun _ => rfl) hserver).orUsual
      greetingTimeout := (kgreeting.holds_find? (fun _ => rfl) hserver).orUsual
      clientName := (kclient.holds_find? (fun _ => rfl) hserver).orUsual
      minDelay := (kmin.holds_find? (fun _ => rfl) hreconnect).orUsual
      maxDelay := (kmax.holds_find? (fun _ => rfl) hreconnect).orUsual
      growthFactor := (kgrowth.holds_find? (fun _ => rfl) hreconnect).orUsual
      maxRetries := (kretries.holds_find? (fun _ => rfl) hreconnect).orUsual
      connectionTimeout := (kconnection.holds_find? (fun _ => rfl) hreconnect).orUsual
      cultures := (kcultures.holds_find? (fun _ => rfl) hchoices).orUsual
      languages := (klanguages.holds_find? (fun _ => rfl) hchoices).orUsual }

/-! ## Resolving -/

/-- What is made of a file with a path, if one is given. -/
def read (file : Option (String × StoredFile)) : Except ConfigurationError ConfigurationFile :=
  match file with
  | none => .ok {}
  | some (path, stored) => ConfigurationFile.load path stored

theorem read_eq_ok_iff {file : Option (String × StoredFile)} {given : ConfigurationFile} :
    read file = .ok given
      ↔ ∃ tables, FromFile file tables ∧ ConfigurationFile.schema.take tables = .ok given := by
  constructor
  · intro h
    cases file with
    | none =>
        cases h
        exact ⟨.object [], .none, rfl⟩
    | some f =>
        obtain ⟨path, stored⟩ := f
        unfold read ConfigurationFile.load at h
        cases htext : stored.readText with
        | error e =>
            simp only [htext] at h
            cases h
        | ok text =>
            obtain rfl := StoredFile.eq_of_readText htext
            cases hentries : Toml.parse text with
            | none =>
                simp only [htext, ConfigurationFile.parse, hentries] at h
                cases h
            | some entries =>
                simp only [htext, ConfigurationFile.parse, hentries] at h
                cases htake : ConfigurationFile.schema.take
                    (Toml.Value.table .headed entries).toJson with
                | error m =>
                    rw [htake] at h
                    cases h
                | ok given' =>
                    rw [htake] at h
                    cases h
                    exact ⟨_, .file path hentries htake, htake⟩
  · rintro ⟨tables, hfile, htake⟩
    cases hfile with
    | none =>
        cases htake
        rfl
    | file path reads decodes =>
        unfold read ConfigurationFile.load
        simp only [StoredFile.readText_ofText, ConfigurationFile.parse, reads, htake]
        rfl

theorem FromFile.exists_take {file : Option (String × StoredFile)} {tables : Json}
    (h : FromFile file tables) : ∃ given, ConfigurationFile.schema.take tables = .ok given := by
  cases h with
  | none => exact ⟨{}, rfl⟩
  | file path reads decodes => exact ⟨_, decodes⟩

theorem withEnvironment_eq_ok_iff {environment : String → Option String}
    {s s' : Server.Settings} :
    s.withEnvironment environment = .ok s'
      ↔ ∃ port, FromEnvironment environment port ∧ s' = { s with port := port.getD s.port } := by
  unfold Server.Settings.withEnvironment
  constructor
  · intro h
    cases hvalue : environment Server.portVariable with
    | none =>
        rw [hvalue] at h
        cases h
        exact ⟨none, .unset hvalue, rfl⟩
    | some value =>
        rw [hvalue] at h
        cases hport : Server.parsePort value with
        | none =>
            simp only [hport] at h
            cases h
        | some port =>
            simp only [hport] at h
            cases h
            exact ⟨some port, .set hvalue (Server.parsePort_eq_some_iff.1 hport), rfl⟩
  · rintro ⟨port, henvironment, rfl⟩
    cases henvironment with
    | unset missing =>
        have hvalue : environment Server.portVariable = none := missing
        rw [hvalue]
        rfl
    | @set value port found writes =>
        have hvalue : environment Server.portVariable = some value := found
        rw [hvalue]
        simp only [Server.parsePort_eq_some_iff.2 writes]
        rfl

theorem resolve_eq (file : Option (String × StoredFile)) (flags : ServerFlags)
    (environment : String → Option String) :
    resolve file flags environment = match read file with
      | .error e => .error e
      | .ok given =>
        match (Server.Settings.ofDraft given.server).withEnvironment environment with
        | .error e => .error (.wrongVariable e)
        | .ok server => .ok ⟨flags.apply server, .ofDraft given.choices⟩ := rfl

theorem resolve_eq_ok_iff {file : Option (String × StoredFile)} {flags : ServerFlags}
    {environment : String → Option String} {c : Configuration} :
    resolve file flags environment = .ok c
      ↔ ∃ tables port, FromFile file tables ∧ FromEnvironment environment port
        ∧ Layered flags port tables c := by
  rw [resolve_eq]
  constructor
  · intro h
    cases hread : read file with
    | error e =>
        rw [hread] at h
        cases h
    | ok given =>
        obtain ⟨tables, hfile, htake⟩ := read_eq_ok_iff.1 hread
        cases hserver : (Server.Settings.ofDraft given.server).withEnvironment environment with
        | error e =>
            simp only [hread, hserver] at h
            cases h
        | ok server =>
            simp only [hread, hserver] at h
            cases h
            obtain ⟨port, hport, rfl⟩ := withEnvironment_eq_ok_iff.1 hserver
            exact ⟨tables, port, hfile, hport, layered_apply htake⟩
  · rintro ⟨tables, port, hfile, hport, hlayered⟩
    obtain ⟨given, htake⟩ := hfile.exists_take
    have hread := read_eq_ok_iff.2 ⟨tables, hfile, htake⟩
    have hserver : (Server.Settings.ofDraft given.server).withEnvironment environment = .ok _ :=
      withEnvironment_eq_ok_iff.2 ⟨port, hport, rfl⟩
    simp only [hread, hserver, hlayered.unique (layered_apply htake)]

/-- For every file, all flags and every environment: a configuration is the one that is resolved
exactly if it is layered over what the file and the environment give. There is one exactly if the
file and the port can be read, whether or not a flag counts before them. No other variable of the
environment makes a difference. -/
theorem layered_of_resolve (file : Option (String × StoredFile)) (flags : ServerFlags)
    (environment : String → Option String) :
    (∀ c, resolve file flags environment = .ok c
      ↔ ∃ tables port, FromFile file tables ∧ FromEnvironment environment port
        ∧ Layered flags port tables c)
      ∧ ((∃ c, resolve file flags environment = .ok c)
        ↔ (∃ tables, FromFile file tables) ∧ ∃ port, FromEnvironment environment port)
      ∧ ∀ environment' : String → Option String,
        environment' "OV_LANGUAGE_PORT" = environment "OV_LANGUAGE_PORT" →
          resolve file flags environment' = resolve file flags environment := by
  refine ⟨fun c => resolve_eq_ok_iff, ⟨?_, ?_⟩, fun environment' same => ?_⟩
  · rintro ⟨c, hc⟩
    obtain ⟨tables, port, hfile, hport, -⟩ := resolve_eq_ok_iff.1 hc
    exact ⟨⟨tables, hfile⟩, port, hport⟩
  · rintro ⟨⟨tables, hfile⟩, port, hport⟩
    obtain ⟨given, htake⟩ := hfile.exists_take
    exact ⟨_, resolve_eq_ok_iff.2 ⟨tables, port, hfile, hport, layered_apply htake⟩⟩
  · have hserver : ∀ s : Server.Settings,
        s.withEnvironment environment' = s.withEnvironment environment := by
      intro s
      unfold Server.Settings.withEnvironment Server.portVariable
      rw [same]
    simp only [resolve_eq, hserver]

/-- A file that gives one of the settings for connecting again, a port in the environment, and a
host as a flag. The variable `HOST` does not count. -/
theorem layered_of_resolve_partly_given :
    ∃ file environment environment' c,
      file = some ("a.toml",
        .ofText "[server]\nport = 4100\n[server.reconnect]\nmax_delay_ms = 250\n")
      ∧ environment = (fun name => if name = "OV_LANGUAGE_PORT" then some " +04020 " else none)
      ∧ environment' = (fun name => if name = "HOST" then some "other" else environment name)
      ∧ resolve file { host := some "flag.example" } environment = .ok c
      ∧ resolve file { host := some "flag.example" } environment' = .ok c
      ∧ c.server.host = "flag.example" ∧ c.server.port = 4020
      ∧ c.server.reconnect.maxDelay = 250 ∧ c.server.reconnect.minDelay = 1000 := by
  have hparse : Toml.parse "[server]\nport = 4100\n[server.reconnect]\nmax_delay_ms = 250\n"
      = some [("server", .table .headed [("port", .integer 4100),
        ("reconnect", .table .headed [("max_delay_ms", .integer 250)])])] := rfl
  have htake : ConfigurationFile.schema.take
      (Toml.Value.table .headed [("server", .table .headed [("port", .integer 4100),
        ("reconnect", .table .headed [("max_delay_ms", .integer 250)])])]).toJson
      = .ok ⟨{ port := some 4100, reconnect := some { maxDelay := some 250 } }, {}⟩ := rfl
  have hport : Server.WritesPort 4020 " +04020 ".toList :=
    ⟨[' '], ['+'], 1, [' '], by decide, Or.inr rfl, by decide, by decide⟩
  have hlayered : Layered { host := some "flag.example" } (some 4020)
      (Toml.Value.table .headed [("server", .table .headed [("port", .integer 4100),
        ("reconnect", .table .headed [("max_delay_ms", .integer 250)])])]).toJson
      ⟨{ host := "flag.example", port := 4020, reconnect := { maxDelay := 250 } }, {}⟩ :=
    { host := .here rfl
      port := .next rfl (.here rfl)
      isSecure := ⟨nofun, fun h => h.elim nofun nofun⟩
      pagePath := .next rfl .leftOut
      servicePath := .leftOut
      greetingTimeout := .leftOut
      clientName := .leftOut
      minDelay := .leftOut
      maxDelay := .given rfl
      growthFactor := .leftOut
      maxRetries := .leftOut
      connectionTimeout := .leftOut
      cultures := .leftOut
      languages := .leftOut }
  obtain ⟨hiff, -, hother⟩ := layered_of_resolve _ { host := some "flag.example" }
    fun name => if name = "OV_LANGUAGE_PORT" then some " +04020 " else none
  have hresolve := (hiff _).2 ⟨_, _, .file "a.toml" hparse htake, .set rfl hport, hlayered⟩
  exact ⟨_, _, _, _, rfl, rfl, rfl, hresolve, (hother _ rfl).trans hresolve, rfl, rfl, rfl, rfl⟩

end Configuration

end SurfaceBridge
