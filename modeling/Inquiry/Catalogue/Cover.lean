import Inquiry.Report

/-!
# Contract reports

The catalogue of the domain of insurance contracts (Cover): one report over all contracts with their
partners, brokers and clerks.
-/

namespace Inquiry.Catalogue.Cover

/-- A text column. Its source is qualified. -/
def column (source header : String) (keywords : List String) : Column :=
  { source, header, keywords }

/-- A column with a number. -/
def amount (source header : String) (keywords : List String) : Column :=
  { source, header, keywords, numeric := true }

/-- The full name of the clerk whose short name stands in a column of the contract. -/
def clerk (source : String) : String :=
  "(SELECT SB.LU_SB_VOR + ' ' + SB.LU_SB_NAM FROM SACHBEA SB WHERE LAL." ++ source ++
    " = SB.LU_SB_KURZ)"

/-- The columns of a contract. -/
def columns : List (String × Column) := [
  -- Numbers
  ("vsn", column "LAL.LU_VSN" "VSN" ["vsn", "versicherungsschein", "policenr"]),
  ("vsn_makler", column "LAL.LU_VSN_Makler" "VSN Makler"
    ["vsn makler", "makler-vsn", "policenr makler"]),
  ("vsn_vr", column "LAL.LU_VSN_VR" "VSN Versicherer" ["vsn vr", "vsn versicherer", "policenr vr"]),
  ("makler_nr", column "LAL.LU_VMT" "Makler-Nr"
    ["makler-nr", "makler nr", "makler id", "makler-id", "vmt"]),
  ("altmakler_nr", column "LAL.LU_VMT2" "Altmakler-Nr" ["altmakler", "vmt2"]),
  ("gesellschaft_nr", column "LAL.LU_GES" "Ges. Nr" ["ges nr", "gesellschaftsnummer"]),
  ("vorgang_id", column "LAL.LU_VORGANG_ID" "Vorgang ID"
    ["vorgang id", "vorgangsnummer", "vorgang"]),
  ("risiko_id", column "LAL.LU_RIS_ID" "Risiko ID" ["risiko id"]),
  -- Partner and address
  ("partner_typ", column "LUM.LU_TYP" "Partner-Typ" ["partnertyp", "partner-typ"]),
  ("firma", column "LUM.LU_NAM" "Firma/Name" ["firma", "name", "kunde"]),
  ("name2", column "LUM.LU_NA2" "Namenszusatz 1" ["name2", "namenszusatz 1"]),
  ("name3", column "LUM.LU_NA3" "Namenszusatz 2" ["name3", "namenszusatz 2"]),
  ("vorname", column "LUM.LU_VOR" "Vorname" ["vorname"]),
  ("strasse", column "LUM.LU_STRASSE" "Strasse" ["strasse", "straße", "adresse"]),
  ("hausnummer", column "LUM.LU_STRASSE_NR" "Hausnummer" ["hausnummer", "str nr"]),
  ("plz", column "LUM.LU_PLZ" "PLZ" ["plz", "postleitzahl"]),
  ("ort", column "LUM.LU_ORT" "Ort" ["ort", "stadt"]),
  ("land", column "V05.LU_LANDNAME" "Land" ["land", "landname"]),
  ("land_code", column "LUM.LU_NAT" "Land Code" ["land code", "landcode", "nat"]),
  ("makler_name", column "MAK.LU_NAM" "Makler Name" ["makler name", "makler", "vermittler"]),
  -- Contract
  ("beginn", column "LAL.LU_BEG" "Beginn" ["beginn", "anfang", "vertragsbeginn"]),
  ("ablauf", column "LAL.LU_ABL" "Ablauf" ["ablauf", "ende", "vertragsende"]),
  ("laufzeit", amount "LAL.LU_LFZ" "Laufzeit in Jahren" ["laufzeit", "lfz"]),
  ("vertragsart", column "LAL.LU_ART_Text" "Vertragsart" ["vertragsart", "art"]),
  ("status", column "LAL.LU_STA" "Status" ["status"]),
  ("vertragsstatus", column "MAO.TAB_VALUE" "Vertragsstatus" ["vertragsstatus"]),
  ("vertragsstand", column "MAS.TAB_VALUE" "Vertragsstand" ["vertragsstand", "stand"]),
  ("beteiligungsform", column "MAB.TAB_VALUE" "Beteiligungsform"
    ["beteiligungsform", "beteiligung"]),
  ("risiko", column "LAL.LU_RIS" "Risiko" ["risiko"]),
  ("baustein_typ", column "MAC.TAB_VALUE" "Baustein Typ" ["baustein", "bausteintyp"]),
  ("gesellschaft_name", column "LAL.LU_GES_Text" "Ges. Name" ["gesellschaft", "ges name"]),
  -- Due dates and versions
  ("hauptfaelligkeit", column "LAL.LU_HFL" "Hauptfälligkeit" ["hauptfälligkeit", "hauptfall"]),
  ("faelligkeit_von", column "LAL.LU_FLG" "Fälligkeit von" ["fälligkeit von", "version von"]),
  ("faelligkeit_bis", column "LAL.LU_FLZ" "Fälligkeit bis" ["fälligkeit bis", "version bis"]),
  ("version_status", column "LAL.LU_STATUS" "Version Status" ["version status", "v-status"]),
  -- Clerks
  ("sb_vertrag", column (clerk "LU_SACHBEA_VT") "SB Vertrag" ["sb vertrag", "sb vertr"]),
  ("sb_schaden", column (clerk "LU_SACHBEA_SC") "SB Schaden" ["sb schaden", "sb scha"]),
  ("sb_rechnung", column (clerk "LU_SACHBEA_RG") "SB Rechnung" ["sb rechnung", "rechnung"]),
  ("sb_gl", column (clerk "LU_SACHBEA_GL") "SB GL/Prokurist" ["sb gl", "prokurist"]),
  ("sb_buha", column (clerk "LU_SACHBEA_BUH") "SB BuHa" ["sb buha", "buchhaltung"])]

/-- The report on contracts. -/
def report : Report where
  number := 0
  name := "Dynamischer Cover-Bericht"
  mainKeywords :=
    ["cover", "covers", "vertrag", "verträge", "verträgen", "vertrages", "police", "policen"]
  columns := columns
  skeleton := [
    .text "SELECT\n    ", .columns, .text "
FROM LU_ALLE AS LAL
    INNER JOIN LU_MASKEP AS LUM ON LAL.PPointer = LUM.PPointer
    INNER JOIN VIASS005 AS V05 ON LUM.LU_NAT = V05.LU_INTKZ
    INNER JOIN MAP_ALLE_STA AS MAS ON LAL.LU_STA = MAS.TAB_ID
    INNER JOIN MAP_ALLE_COVERRIS AS MAC ON LAL.LU_BAUST_RIS = MAC.TAB_ID
    INNER JOIN MAKLERV AS MAK ON LAL.LU_VMT = MAK.LU_VMTNR
    INNER JOIN MAP_ALLE_BETSTAT AS MAB ON LAL.LU_BET_STAT = MAB.TAB_ID
    INNER JOIN MAP_ALLE_OPZ AS MAO ON LAL.LU_OPZ = MAO.TAB_ID
WHERE LAL.Sparte LIKE '%COVER' AND ", .conditions]

end Inquiry.Catalogue.Cover
