import Inquiry.Report

/-!
# Claim reports

The catalogue of the domain of insurance claims (Schaden): one report over all claims with their
dates, amounts, goods and parties.
-/

namespace Inquiry.Catalogue.Schaden

/-- A text column of a claim. -/
def column (source header : String) (keywords : List String) : Column :=
  { source, header, table := "LS", keywords }

/-- A column of a claim with a number. -/
def amount (source header : String) (keywords : List String) : Column :=
  { source, header, table := "LS", keywords, numeric := true }

/-- A text column that is an expression. -/
def expression (source header : String) (keywords : List String) : Column :=
  { source, header, keywords }

/-- The reference to a party, or `Nein` if there is no such party. -/
def party (source : String) : String :=
  "(CASE WHEN LS." ++ source ++ " IS NULL OR RTRIM(LTRIM(LS." ++ source ++
    ")) = '' THEN 'Nein' ELSE LS." ++ source ++ " END)"

/-- The columns of a claim. -/
def columns : List (String × Column) := [
  -- Numbers
  ("vsn", column "LU_VSN" "VS-Nr" ["vsn", "vs-nr", "versicherungsschein"]),
  ("schaden_nr", column "LU_SNR" "Schaden-Nr" ["schaden-nr", "schadennummer", "snr", "cs-nummer"]),
  ("makler_schaden_nr", column "LU_SNR_MAKLER" "Makler-Schaden-Nr"
    ["makler schaden-nr", "makler-snr"]),
  ("vorgang_id", column "LU_VORGANG_ID" "Vorgang-ID" ["vorgang-id", "vorgangsnummer", "vorgang"]),
  ("makler_id", column "LU_VMT" "Makler-ID" ["makler-id", "makler", "vmt", "vermittler"]),
  ("gesellschaft_nr", column "LU_GES" "Gesellschafts-Nr" ["gesellschaft-nr", "ges-nr"]),
  ("gesellschaft_name", column "LU_GES_Text" "Gesellschaft" ["gesellschaft", "gesellschaftsname"]),
  -- Dates
  ("transport_beginn", column "LU_STRABEG_DATUM" "Transportbeginn"
    ["transportbeginn", "beginn transport"]),
  ("schadentag", column "LU_SDA" "Schadentag" ["schadentag", "schadendatum", "sda"]),
  ("anlage_datum", column "LU_SANL_DATUM" "Anlagedatum"
    ["anlagedatum", "erstellt am", "angelegt am"]),
  ("melde_datum", column "LU_SMELD_DATUM" "Meldedatum" ["meldedatum"]),
  ("erledigt_datum", column "LU_ERLEDIGT" "Erledigt am"
    ["erledigt", "erledigt am", "geschlossen am"]),
  ("verjaehrung_datum", column "LU_VERJ_DATUM" "Verjährung" ["verjährung"]),
  -- Status and amounts
  ("status", column "LU_SVSTATUS" "Bearbeitungsstatus"
    ["status", "bearbeitungsstatus", "schadenstatus"]),
  ("sachbearbeiter", column "LU_SACHBEA_SC" "Sachbearbeiter"
    ["sachbearbeiter", "sb", "bearbeiter"]),
  ("sparte", column "LU_SPARTENNAME" "Sparte" ["sparte", "spartenname"]),
  ("waehrung", column "LU_WAE" "Währung" ["währung", "wae"]),
  ("restreserve", amount "LU_RESTRESERVE" "Restreserve" ["restreserve"]),
  ("schadensumme", amount "LU_SSU" "Schadensumme" ["schadensumme", "ssu"]),
  ("schaden_offen", amount "LU_SSO" "Schaden Offen" ["schaden offen", "sso"]),
  ("reserve", amount "LU_RESERVE" "Reserve" ["reserve"]),
  ("cs_anteil", amount "LU_ANTEIL_CS" "CS-Anteil" ["cs-anteil", "anteil cs"]),
  -- Transport and goods
  ("transportweg_start", column "LU_WR_TRANSWEG" "Transportweg Start"
    ["transportweg start", "abgangsort"]),
  ("transportweg_ziel", column "LU_WR_TRANSWEG3" "Transportweg Ziel"
    ["transportweg ziel", "bestimmungsort", "zielort"]),
  ("warenbezeichnung", column "LU_WR_WAREBEZ" "Warenbezeichnung" ["ware", "warenbezeichnung"]),
  ("schiffsname", column "LU_WR_SCHIFFN" "Schiffsname" ["schiff", "schiffsname"]),
  ("frachtbrief", column "LU_WR_BLFR" "Frachtbrief-Nr" ["frachtbrief", "b/l-nr", "bl-nr"]),
  ("container_nr", column "LU_WR_CONTNR" "Container-Nr" ["container", "container-nr"]),
  -- Parties
  ("subunternehmer", expression (party "LU_SAST_PNR") "Subunternehmer" ["subunternehmer", "sast"]),
  ("verursacher", expression (party "LU_VURS_PNR") "Verursacher" ["verursacher", "vurs"]),
  ("anspruchsteller", expression (party "LU_AST_PNR") "Anspruchsteller" ["anspruchsteller", "ast"]),
  ("geschaedigter", expression (party "LU_GESCH_PNR") "Geschädigter" ["geschädigter", "gesch"]),
  ("surveyor", column "LS.LU_SURV_NAM_PNR" "Surveyor" ["surveyor", "gutachter", "besichtiger"])]

/-- The report on claims. -/
def report : Report where
  number := 1
  name := "Dynamischer Schaden-Bericht"
  mainKeywords :=
    ["schaden", "schäden", "schadens", "schadenfall", "schadenfälle", "schadensfälle", "sva"]
  columns := columns
  skeleton := [
    .text "SELECT ", .columns, .text " FROM LU_SVA AS LS WHERE LS.Sparte = 'SVA' AND ",
    .conditions]
  defaultOrder := ["vsn", "schaden_nr"]

end Inquiry.Catalogue.Schaden
