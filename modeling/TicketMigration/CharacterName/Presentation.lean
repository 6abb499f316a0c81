/-!
# Names of characters: presentation

Forms of letters that are only for display, and the first scripts of antiquity.

## Main definitions

* `presentation` is the table.
-/

namespace TicketMigration.CharacterName

/-- The table.  Behind a colon stands the code of a character.  Each name begins with a small
letter, which says how many words it has in common with the name before, and is the name of the
next code. -/
def presentation : String :=
  ":FB00aLATIN SMALL LIGATURE FFdFIdFLdFFIdFFLdLONG S TdST:FB13aARMENIAN SMALL LIGATURE MEN NOWeECH
eINIdVEW NOWdMEN XEH:FB1DaHEBREW LETTER YOD WITH HIRIQbPOINT JUDEO-SPANISH VARIKA
bLIGATURE YIDDISH YOD YOD PATAHbLETTER ALTERNATIVE AYINcWIDE ALEFdDALETdHEdKAFdLAMEDdFINAL MEM
dRESHdTAVcALTERNATIVE PLUS SIGNcSHIN WITH SHIN DOTeSIN DOTeDAGESH AND SHIN DOTgSIN DOT
cALEF WITH PATAHeQAMATSeMAPIQcBET WITH DAGESHcGIMEL WITH DAGESHcDALET WITH DAGESHcHE WITH MAPIQ
cVAV WITH DAGESHcZAYIN WITH DAGESH:FB38aHEBREW LETTER TET WITH DAGESHcYOD WITH DAGESH
cFINAL KAF WITH DAGESHcKAF WITH DAGESHcLAMED WITH DAGESH:FB3EaHEBREW LETTER MEM WITH DAGESH:FB40
aHEBREW LETTER NUN WITH DAGESHcSAMEKH WITH DAGESH:FB43aHEBREW LETTER FINAL PE WITH DAGESH
cPE WITH DAGESH:FB46aHEBREW LETTER TSADI WITH DAGESHcQOF WITH DAGESHcRESH WITH DAGESH
cSHIN WITH DAGESHcTAV WITH DAGESHcVAV WITH HOLAMcBET WITH RAFEcKAF WITH RAFEcPE WITH RAFE
bLIGATURE ALEF LAMEDaARABIC LETTER ALEF WASLA ISOLATED FORMeFINAL FORMcBEEH ISOLATED FORM
dFINAL FORMdINITIAL FORMdMEDIAL FORMcPEH ISOLATED FORMdFINAL FORMdINITIAL FORMdMEDIAL FORM
cBEHEH ISOLATED FORMdFINAL FORMdINITIAL FORMdMEDIAL FORMcTTEHEH ISOLATED FORMdFINAL FORM
dINITIAL FORMdMEDIAL FORMcTEHEH ISOLATED FORMdFINAL FORMdINITIAL FORMdMEDIAL FORM
cTTEH ISOLATED FORMdFINAL FORMdINITIAL FORMdMEDIAL FORMcVEH ISOLATED FORMdFINAL FORMdINITIAL FORM
dMEDIAL FORMcPEHEH ISOLATED FORMdFINAL FORMdINITIAL FORMdMEDIAL FORMcDYEH ISOLATED FORMdFINAL FORM
dINITIAL FORMdMEDIAL FORMcNYEH ISOLATED FORMdFINAL FORMdINITIAL FORMdMEDIAL FORM
cTCHEH ISOLATED FORMdFINAL FORMdINITIAL FORMdMEDIAL FORMcTCHEHEH ISOLATED FORMdFINAL FORM
dINITIAL FORMdMEDIAL FORMcDDAHAL ISOLATED FORMdFINAL FORMcDAHAL ISOLATED FORMdFINAL FORM
cDUL ISOLATED FORMdFINAL FORMcDDAL ISOLATED FORMdFINAL FORMcJEH ISOLATED FORMdFINAL FORM
cRREH ISOLATED FORMdFINAL FORMcKEHEH ISOLATED FORMdFINAL FORMdINITIAL FORMdMEDIAL FORM
cGAF ISOLATED FORMdFINAL FORMdINITIAL FORMdMEDIAL FORMcGUEH ISOLATED FORMdFINAL FORMdINITIAL FORM
dMEDIAL FORMcNGOEH ISOLATED FORMdFINAL FORMdINITIAL FORMdMEDIAL FORMcNOON GHUNNA ISOLATED FORM
eFINAL FORMcRNOON ISOLATED FORMdFINAL FORMdINITIAL FORMdMEDIAL FORM
cHEH WITH YEH ABOVE ISOLATED FORMgFINAL FORMdGOAL ISOLATED FORMeFINAL FORMeINITIAL FORM
eMEDIAL FORMdDOACHASHMEE ISOLATED FORMeFINAL FORMeINITIAL FORMeMEDIAL FORM
cYEH BARREE ISOLATED FORMeFINAL FORMeWITH HAMZA ABOVE ISOLATED FORMhFINAL FORMbSYMBOL DOT ABOVE
dBELOWcTWO DOTS ABOVEeBELOWcTHREE DOTS ABOVEeBELOWePOINTING DOWNWARDS ABOVEgBELOWcFOUR DOTS ABOVE
eBELOWcDOUBLE VERTICAL BAR BELOWcTWO DOTS VERTICALLY ABOVEfBELOWcRINGcSMALL TAH ABOVEeBELOW
cWASLA ABOVE:FBD3aARABIC LETTER NG ISOLATED FORMdFINAL FORMdINITIAL FORMdMEDIAL FORM
cU ISOLATED FORMdFINAL FORMcOE ISOLATED FORMdFINAL FORMcYU ISOLATED FORMdFINAL FORM
cU WITH HAMZA ABOVE ISOLATED FORMcVE ISOLATED FORMdFINAL FORMcKIRGHIZ OE ISOLATED FORMeFINAL FORM
dYU ISOLATED FORMeFINAL FORMcE ISOLATED FORMdFINAL FORMdINITIAL FORMdMEDIAL FORM
cUIGHUR KAZAKH KIRGHIZ ALEF MAKSURA INITIAL FORMhMEDIAL FORM
bLIGATURE YEH WITH HAMZA ABOVE WITH ALEF ISOLATED FORMiFINAL FORMhAE ISOLATED FORMiFINAL FORM
hWAW ISOLATED FORMiFINAL FORMhU ISOLATED FORMiFINAL FORMhOE ISOLATED FORMiFINAL FORM
hYU ISOLATED FORMiFINAL FORMhE ISOLATED FORMiFINAL FORMiINITIAL FORM
cUIGHUR KIRGHIZ YEH WITH HAMZA ABOVE WITH ALEF MAKSURA ISOLATED FORMlFINAL FORMlINITIAL FORM
bLETTER FARSI YEH ISOLATED FORMeFINAL FORMeINITIAL FORMeMEDIAL FORM
bLIGATURE YEH WITH HAMZA ABOVE WITH JEEM ISOLATED FORMhHAH ISOLATED FORMhMEEM ISOLATED FORM
hALEF MAKSURA ISOLATED FORMhYEH ISOLATED FORMcBEH WITH JEEM ISOLATED FORMeHAH ISOLATED FORM
eKHAH ISOLATED FORMeMEEM ISOLATED FORMeALEF MAKSURA ISOLATED FORMeYEH ISOLATED FORM
cTEH WITH JEEM ISOLATED FORMeHAH ISOLATED FORMeKHAH ISOLATED FORMeMEEM ISOLATED FORM
eALEF MAKSURA ISOLATED FORMeYEH ISOLATED FORMcTHEH WITH JEEM ISOLATED FORMeMEEM ISOLATED FORM
eALEF MAKSURA ISOLATED FORMeYEH ISOLATED FORMcJEEM WITH HAH ISOLATED FORMeMEEM ISOLATED FORM
cHAH WITH JEEM ISOLATED FORMeMEEM ISOLATED FORMcKHAH WITH JEEM ISOLATED FORMeHAH ISOLATED FORM
eMEEM ISOLATED FORMcSEEN WITH JEEM ISOLATED FORMeHAH ISOLATED FORMeKHAH ISOLATED FORM
eMEEM ISOLATED FORMcSAD WITH HAH ISOLATED FORMeMEEM ISOLATED FORMcDAD WITH JEEM ISOLATED FORM
eHAH ISOLATED FORMeKHAH ISOLATED FORMeMEEM ISOLATED FORMcTAH WITH HAH ISOLATED FORM
eMEEM ISOLATED FORMcZAH WITH MEEM ISOLATED FORMcAIN WITH JEEM ISOLATED FORMeMEEM ISOLATED FORM
cGHAIN WITH JEEM ISOLATED FORMeMEEM ISOLATED FORMcFEH WITH JEEM ISOLATED FORMeHAH ISOLATED FORM
eKHAH ISOLATED FORMeMEEM ISOLATED FORMeALEF MAKSURA ISOLATED FORMeYEH ISOLATED FORM
cQAF WITH HAH ISOLATED FORMeMEEM ISOLATED FORMeALEF MAKSURA ISOLATED FORMeYEH ISOLATED FORM
cKAF WITH ALEF ISOLATED FORMeJEEM ISOLATED FORMeHAH ISOLATED FORMeKHAH ISOLATED FORM
eLAM ISOLATED FORMeMEEM ISOLATED FORMeALEF MAKSURA ISOLATED FORMeYEH ISOLATED FORM
cLAM WITH JEEM ISOLATED FORMeHAH ISOLATED FORMeKHAH ISOLATED FORMeMEEM ISOLATED FORM
eALEF MAKSURA ISOLATED FORMeYEH ISOLATED FORMcMEEM WITH JEEM ISOLATED FORMeHAH ISOLATED FORM
eKHAH ISOLATED FORMeMEEM ISOLATED FORMeALEF MAKSURA ISOLATED FORMeYEH ISOLATED FORM
cNOON WITH JEEM ISOLATED FORMeHAH ISOLATED FORMeKHAH ISOLATED FORMeMEEM ISOLATED FORM
eALEF MAKSURA ISOLATED FORMeYEH ISOLATED FORMcHEH WITH JEEM ISOLATED FORMeMEEM ISOLATED FORM
eALEF MAKSURA ISOLATED FORMeYEH ISOLATED FORMcYEH WITH JEEM ISOLATED FORMeHAH ISOLATED FORM
eKHAH ISOLATED FORMeMEEM ISOLATED FORMeALEF MAKSURA ISOLATED FORMeYEH ISOLATED FORM
cTHAL WITH SUPERSCRIPT ALEF ISOLATED FORMcREH WITH SUPERSCRIPT ALEF ISOLATED FORM
cALEF MAKSURA WITH SUPERSCRIPT ALEF ISOLATED FORMcSHADDA WITH DAMMATAN ISOLATED FORM
eKASRATAN ISOLATED FORMeFATHA ISOLATED FORMeDAMMA ISOLATED FORMeKASRA ISOLATED FORM
eSUPERSCRIPT ALEF ISOLATED FORMcYEH WITH HAMZA ABOVE WITH REH FINAL FORMhZAIN FINAL FORM
hMEEM FINAL FORMhNOON FINAL FORMhALEF MAKSURA FINAL FORMhYEH FINAL FORMcBEH WITH REH FINAL FORM
eZAIN FINAL FORMeMEEM FINAL FORMeNOON FINAL FORMeALEF MAKSURA FINAL FORMeYEH FINAL FORM
cTEH WITH REH FINAL FORMeZAIN FINAL FORMeMEEM FINAL FORMeNOON FINAL FORMeALEF MAKSURA FINAL FORM
eYEH FINAL FORMcTHEH WITH REH FINAL FORMeZAIN FINAL FORMeMEEM FINAL FORMeNOON FINAL FORM
eALEF MAKSURA FINAL FORMeYEH FINAL FORMcFEH WITH ALEF MAKSURA FINAL FORMeYEH FINAL FORM
cQAF WITH ALEF MAKSURA FINAL FORMeYEH FINAL FORMcKAF WITH ALEF FINAL FORMeLAM FINAL FORM
eMEEM FINAL FORMeALEF MAKSURA FINAL FORMeYEH FINAL FORMcLAM WITH MEEM FINAL FORM
eALEF MAKSURA FINAL FORMeYEH FINAL FORMcMEEM WITH ALEF FINAL FORMeMEEM FINAL FORM
cNOON WITH REH FINAL FORMeZAIN FINAL FORMeMEEM FINAL FORMeNOON FINAL FORMeALEF MAKSURA FINAL FORM
eYEH FINAL FORMcALEF MAKSURA WITH SUPERSCRIPT ALEF FINAL FORMcYEH WITH REH FINAL FORM
eZAIN FINAL FORMeMEEM FINAL FORMeNOON FINAL FORMeALEF MAKSURA FINAL FORMeYEH FINAL FORM
eHAMZA ABOVE WITH JEEM INITIAL FORMhHAH INITIAL FORMhKHAH INITIAL FORMhMEEM INITIAL FORM
hHEH INITIAL FORMcBEH WITH JEEM INITIAL FORMeHAH INITIAL FORMeKHAH INITIAL FORMeMEEM INITIAL FORM
eHEH INITIAL FORMcTEH WITH JEEM INITIAL FORMeHAH INITIAL FORMeKHAH INITIAL FORMeMEEM INITIAL FORM
eHEH INITIAL FORMcTHEH WITH MEEM INITIAL FORMcJEEM WITH HAH INITIAL FORMeMEEM INITIAL FORM
cHAH WITH JEEM INITIAL FORMeMEEM INITIAL FORMcKHAH WITH JEEM INITIAL FORMeMEEM INITIAL FORM
cSEEN WITH JEEM INITIAL FORMeHAH INITIAL FORMeKHAH INITIAL FORMeMEEM INITIAL FORM
cSAD WITH HAH INITIAL FORMeKHAH INITIAL FORMeMEEM INITIAL FORMcDAD WITH JEEM INITIAL FORM
eHAH INITIAL FORMeKHAH INITIAL FORMeMEEM INITIAL FORMcTAH WITH HAH INITIAL FORM
cZAH WITH MEEM INITIAL FORMcAIN WITH JEEM INITIAL FORMeMEEM INITIAL FORM
cGHAIN WITH JEEM INITIAL FORMeMEEM INITIAL FORMcFEH WITH JEEM INITIAL FORMeHAH INITIAL FORM
eKHAH INITIAL FORMeMEEM INITIAL FORMcQAF WITH HAH INITIAL FORMeMEEM INITIAL FORM
cKAF WITH JEEM INITIAL FORMeHAH INITIAL FORMeKHAH INITIAL FORMeLAM INITIAL FORMeMEEM INITIAL FORM
cLAM WITH JEEM INITIAL FORMeHAH INITIAL FORMeKHAH INITIAL FORMeMEEM INITIAL FORMeHEH INITIAL FORM
cMEEM WITH JEEM INITIAL FORMeHAH INITIAL FORMeKHAH INITIAL FORMeMEEM INITIAL FORM
cNOON WITH JEEM INITIAL FORMeHAH INITIAL FORMeKHAH INITIAL FORMeMEEM INITIAL FORMeHEH INITIAL FORM
cHEH WITH JEEM INITIAL FORMeMEEM INITIAL FORMeSUPERSCRIPT ALEF INITIAL FORM
cYEH WITH JEEM INITIAL FORMeHAH INITIAL FORMeKHAH INITIAL FORMeMEEM INITIAL FORMeHEH INITIAL FORM
eHAMZA ABOVE WITH MEEM MEDIAL FORMhHEH MEDIAL FORMcBEH WITH MEEM MEDIAL FORMeHEH MEDIAL FORM
cTEH WITH MEEM MEDIAL FORMeHEH MEDIAL FORMcTHEH WITH MEEM MEDIAL FORMeHEH MEDIAL FORM
cSEEN WITH MEEM MEDIAL FORMeHEH MEDIAL FORMcSHEEN WITH MEEM MEDIAL FORMeHEH MEDIAL FORM
cKAF WITH LAM MEDIAL FORMeMEEM MEDIAL FORMcLAM WITH MEEM MEDIAL FORMcNOON WITH MEEM MEDIAL FORM
eHEH MEDIAL FORMcYEH WITH MEEM MEDIAL FORMeHEH MEDIAL FORMcSHADDA WITH FATHA MEDIAL FORM
eDAMMA MEDIAL FORMeKASRA MEDIAL FORMcTAH WITH ALEF MAKSURA ISOLATED FORMeYEH ISOLATED FORM
cAIN WITH ALEF MAKSURA ISOLATED FORMeYEH ISOLATED FORMcGHAIN WITH ALEF MAKSURA ISOLATED FORM
eYEH ISOLATED FORMcSEEN WITH ALEF MAKSURA ISOLATED FORMeYEH ISOLATED FORM
cSHEEN WITH ALEF MAKSURA ISOLATED FORMeYEH ISOLATED FORMcHAH WITH ALEF MAKSURA ISOLATED FORM
eYEH ISOLATED FORMcJEEM WITH ALEF MAKSURA ISOLATED FORMeYEH ISOLATED FORM
cKHAH WITH ALEF MAKSURA ISOLATED FORMeYEH ISOLATED FORMcSAD WITH ALEF MAKSURA ISOLATED FORM
eYEH ISOLATED FORMcDAD WITH ALEF MAKSURA ISOLATED FORMeYEH ISOLATED FORM
cSHEEN WITH JEEM ISOLATED FORMeHAH ISOLATED FORMeKHAH ISOLATED FORMeMEEM ISOLATED FORM
eREH ISOLATED FORMcSEEN WITH REH ISOLATED FORMcSAD WITH REH ISOLATED FORM
cDAD WITH REH ISOLATED FORMcTAH WITH ALEF MAKSURA FINAL FORMeYEH FINAL FORM
cAIN WITH ALEF MAKSURA FINAL FORMeYEH FINAL FORMcGHAIN WITH ALEF MAKSURA FINAL FORMeYEH FINAL FORM
cSEEN WITH ALEF MAKSURA FINAL FORMeYEH FINAL FORMcSHEEN WITH ALEF MAKSURA FINAL FORM
eYEH FINAL FORMcHAH WITH ALEF MAKSURA FINAL FORMeYEH FINAL FORMcJEEM WITH ALEF MAKSURA FINAL FORM
eYEH FINAL FORMcKHAH WITH ALEF MAKSURA FINAL FORMeYEH FINAL FORMcSAD WITH ALEF MAKSURA FINAL FORM
eYEH FINAL FORMcDAD WITH ALEF MAKSURA FINAL FORMeYEH FINAL FORMcSHEEN WITH JEEM FINAL FORM
eHAH FINAL FORMeKHAH FINAL FORMeMEEM FINAL FORMeREH FINAL FORMcSEEN WITH REH FINAL FORM
cSAD WITH REH FINAL FORMcDAD WITH REH FINAL FORMcSHEEN WITH JEEM INITIAL FORMeHAH INITIAL FORM
eKHAH INITIAL FORMeMEEM INITIAL FORMcSEEN WITH HEH INITIAL FORMcSHEEN WITH HEH INITIAL FORM
cTAH WITH MEEM INITIAL FORMcSEEN WITH JEEM MEDIAL FORMeHAH MEDIAL FORMeKHAH MEDIAL FORM
cSHEEN WITH JEEM MEDIAL FORMeHAH MEDIAL FORMeKHAH MEDIAL FORMcTAH WITH MEEM MEDIAL FORM
cZAH WITH MEEM MEDIAL FORMcALEF WITH FATHATAN FINAL FORMfISOLATED FORMaORNATE LEFT PARENTHESIS
bRIGHT PARENTHESISaARABIC LIGATURE RAHIMAHU ALLAAHcRADI ALLAAHU ANHeANHAAeANHUMeANHUMAAeANHUNNA
cSALLALLAAHU ALAYHI WA-AALIHcALAYHI AS-SALAAMcALAYHIM AS-SALAAMcALAYHIMAA AS-SALAAM
cALAYHI AS-SALAATU WAS-SALAAMcQUDDISA SIRRAHcSALLALLAHU ALAYHI WAAALIHEE WA-SALLAM
cALAYHAA AS-SALAAMcTABAARAKA WA-TAAALAAcRAHIMAHUM ALLAAHcTEH WITH JEEM WITH MEEM INITIAL FORM
eHAH WITH JEEM FINAL FORMhINITIAL FORMgMEEM INITIAL FORMeKHAH WITH MEEM INITIAL FORM
eMEEM WITH JEEM INITIAL FORMgHAH INITIAL FORMgKHAH INITIAL FORMcJEEM WITH MEEM WITH HAH FINAL FORM
hINITIAL FORMcHAH WITH MEEM WITH YEH FINAL FORMgALEF MAKSURA FINAL FORM
cSEEN WITH HAH WITH JEEM INITIAL FORMeJEEM WITH HAH INITIAL FORMgALEF MAKSURA FINAL FORM
eMEEM WITH HAH FINAL FORMhINITIAL FORMgJEEM INITIAL FORMgMEEM FINAL FORMhINITIAL FORM
cSAD WITH HAH WITH HAH FINAL FORMhINITIAL FORMeMEEM WITH MEEM FINAL FORM
cSHEEN WITH HAH WITH MEEM FINAL FORMhINITIAL FORMeJEEM WITH YEH FINAL FORM
eMEEM WITH KHAH FINAL FORMhINITIAL FORMgMEEM FINAL FORMhINITIAL FORM
cDAD WITH HAH WITH ALEF MAKSURA FINAL FORMeKHAH WITH MEEM FINAL FORMhINITIAL FORM
cTAH WITH MEEM WITH HAH FINAL FORMhINITIAL FORMgMEEM INITIAL FORMgYEH FINAL FORM
cAIN WITH JEEM WITH MEEM FINAL FORMeMEEM WITH MEEM FINAL FORMhINITIAL FORMgALEF MAKSURA FINAL FORM
cGHAIN WITH MEEM WITH MEEM FINAL FORMgYEH FINAL FORMgALEF MAKSURA FINAL FORM
cFEH WITH KHAH WITH MEEM FINAL FORMhINITIAL FORMcQAF WITH MEEM WITH HAH FINAL FORMgMEEM FINAL FORM
cLAM WITH HAH WITH MEEM FINAL FORMgYEH FINAL FORMgALEF MAKSURA FINAL FORM
eJEEM WITH JEEM INITIAL FORMhFINAL FORMeKHAH WITH MEEM FINAL FORMhINITIAL FORM
eMEEM WITH HAH FINAL FORMhINITIAL FORMcMEEM WITH HAH WITH JEEM INITIAL FORMgMEEM INITIAL FORM
gYEH FINAL FORMeJEEM WITH HAH INITIAL FORMgMEEM INITIAL FORMeKHAH WITH JEEM INITIAL FORM
gMEEM INITIAL FORM:FD92aARABIC LIGATURE MEEM WITH JEEM WITH KHAH INITIAL FORM
cHEH WITH MEEM WITH JEEM INITIAL FORMgMEEM INITIAL FORMcNOON WITH HAH WITH MEEM INITIAL FORM
gALEF MAKSURA FINAL FORMeJEEM WITH MEEM FINAL FORMhINITIAL FORMgALEF MAKSURA FINAL FORM
eMEEM WITH YEH FINAL FORMgALEF MAKSURA FINAL FORMcYEH WITH MEEM WITH MEEM FINAL FORMhINITIAL FORM
cBEH WITH KHAH WITH YEH FINAL FORMcTEH WITH JEEM WITH YEH FINAL FORMgALEF MAKSURA FINAL FORM
eKHAH WITH YEH FINAL FORMgALEF MAKSURA FINAL FORMeMEEM WITH YEH FINAL FORMgALEF MAKSURA FINAL FORM
cJEEM WITH MEEM WITH YEH FINAL FORMeHAH WITH ALEF MAKSURA FINAL FORM
eMEEM WITH ALEF MAKSURA FINAL FORMcSEEN WITH KHAH WITH ALEF MAKSURA FINAL FORM
cSAD WITH HAH WITH YEH FINAL FORMcSHEEN WITH HAH WITH YEH FINAL FORM
cDAD WITH HAH WITH YEH FINAL FORMcLAM WITH JEEM WITH YEH FINAL FORMeMEEM WITH YEH FINAL FORM
cYEH WITH HAH WITH YEH FINAL FORMeJEEM WITH YEH FINAL FORMeMEEM WITH YEH FINAL FORM
cMEEM WITH MEEM WITH YEH FINAL FORMcQAF WITH MEEM WITH YEH FINAL FORM
cNOON WITH HAH WITH YEH FINAL FORMcQAF WITH MEEM WITH HAH INITIAL FORM
cLAM WITH HAH WITH MEEM INITIAL FORMcAIN WITH MEEM WITH YEH FINAL FORM
cKAF WITH MEEM WITH YEH FINAL FORMcNOON WITH JEEM WITH HAH INITIAL FORM
cMEEM WITH KHAH WITH YEH FINAL FORMcLAM WITH JEEM WITH MEEM INITIAL FORM
cKAF WITH MEEM WITH MEEM FINAL FORMcLAM WITH JEEM WITH MEEM FINAL FORM
cNOON WITH JEEM WITH HAH FINAL FORMcJEEM WITH HAH WITH YEH FINAL FORM
cHAH WITH JEEM WITH YEH FINAL FORMcMEEM WITH JEEM WITH YEH FINAL FORM
cFEH WITH MEEM WITH YEH FINAL FORMcBEH WITH HAH WITH YEH FINAL FORM
cKAF WITH MEEM WITH MEEM INITIAL FORMcAIN WITH JEEM WITH MEEM INITIAL FORM
cSAD WITH MEEM WITH MEEM INITIAL FORMcSEEN WITH KHAH WITH YEH FINAL FORM
cNOON WITH JEEM WITH YEH FINAL FORM:FDCFaARABIC LIGATURE SALAAMUHU ALAYNAA:FDF0
aARABIC LIGATURE SALLA USED AS KORANIC STOP SIGN ISOLATED FORM
cQALA USED AS KORANIC STOP SIGN ISOLATED FORMcALLAH ISOLATED FORMcAKBAR ISOLATED FORM
cMOHAMMAD ISOLATED FORMcSALAM ISOLATED FORMcRASOUL ISOLATED FORMcALAYHE ISOLATED FORM
cWASALLAM ISOLATED FORMcSALLA ISOLATED FORMcSALLALLAHOU ALAYHE WASALLAMcJALLAJALALOUHOUaRIAL SIGN
aARABIC LIGATURE BISMILLAH AR-RAHMAN AR-RAHEEMcSUBHAANAHU WA TAAALAAcAZZA WA JALL
aVARIATION SELECTOR-1bSELECTOR-2bSELECTOR-3bSELECTOR-4bSELECTOR-5bSELECTOR-6bSELECTOR-7bSELECTOR-8
bSELECTOR-9bSELECTOR-10bSELECTOR-11bSELECTOR-12bSELECTOR-13bSELECTOR-14bSELECTOR-15bSELECTOR-16
aPRESENTATION FORM FOR VERTICAL COMMAeIDEOGRAPHIC COMMAfFULL STOPeCOLONeSEMICOLONeEXCLAMATION MARK
eQUESTION MARKeLEFT WHITE LENTICULAR BRACKETeRIGHT WHITE LENTICULAR BRAKCETeHORIZONTAL ELLIPSIS
:FE20aCOMBINING LIGATURE LEFT HALFcRIGHT HALFbDOUBLE TILDE LEFT HALFdRIGHT HALFbMACRON LEFT HALF
cRIGHT HALFbCONJOINING MACRONbLIGATURE LEFT HALF BELOWcRIGHT HALF BELOWbTILDE LEFT HALF BELOW
cRIGHT HALF BELOWbMACRON LEFT HALF BELOWcRIGHT HALF BELOWbCONJOINING MACRON BELOW
bCYRILLIC TITLO LEFT HALFdRIGHT HALFaPRESENTATION FORM FOR VERTICAL TWO DOT LEADEReEM DASHeEN DASH
eLOW LINEeWAVY LOW LINEeLEFT PARENTHESISeRIGHT PARENTHESISeLEFT CURLY BRACKETeRIGHT CURLY BRACKET
eLEFT TORTOISE SHELL BRACKETeRIGHT TORTOISE SHELL BRACKETeLEFT BLACK LENTICULAR BRACKET
eRIGHT BLACK LENTICULAR BRACKETeLEFT DOUBLE ANGLE BRACKETeRIGHT DOUBLE ANGLE BRACKET
eLEFT ANGLE BRACKETeRIGHT ANGLE BRACKETeLEFT CORNER BRACKETeRIGHT CORNER BRACKET
eLEFT WHITE CORNER BRACKETeRIGHT WHITE CORNER BRACKETaSESAME DOTaWHITE SESAME DOT
aPRESENTATION FORM FOR VERTICAL LEFT SQUARE BRACKETeRIGHT SQUARE BRACKETaDASHED OVERLINE
aCENTRELINE OVERLINEaWAVY OVERLINEaDOUBLE WAVY OVERLINEaDASHED LOW LINEaCENTRELINE LOW LINE
aWAVY LOW LINEaSMALL COMMAbIDEOGRAPHIC COMMAbFULL STOP:FE54aSMALL SEMICOLONbCOLONbQUESTION MARK
bEXCLAMATION MARKbEM DASHbLEFT PARENTHESISbRIGHT PARENTHESISbLEFT CURLY BRACKET
bRIGHT CURLY BRACKETbLEFT TORTOISE SHELL BRACKETbRIGHT TORTOISE SHELL BRACKETbNUMBER SIGN
bAMPERSANDbASTERISKbPLUS SIGNbHYPHEN-MINUSbLESS-THAN SIGNbGREATER-THAN SIGNbEQUALS SIGN:FE68
aSMALL REVERSE SOLIDUSbDOLLAR SIGNbPERCENT SIGNbCOMMERCIAL AT:FE70aARABIC FATHATAN ISOLATED FORM
bTATWEEL WITH FATHATAN ABOVEbDAMMATAN ISOLATED FORMbTAIL FRAGMENTbKASRATAN ISOLATED FORM:FE76
aARABIC FATHA ISOLATED FORMcMEDIAL FORMbDAMMA ISOLATED FORMcMEDIAL FORMbKASRA ISOLATED FORM
cMEDIAL FORMbSHADDA ISOLATED FORMcMEDIAL FORMbSUKUN ISOLATED FORMcMEDIAL FORM
bLETTER HAMZA ISOLATED FORMcALEF WITH MADDA ABOVE ISOLATED FORMgFINAL FORM
eHAMZA ABOVE ISOLATED FORMgFINAL FORMcWAW WITH HAMZA ABOVE ISOLATED FORMgFINAL FORM
cALEF WITH HAMZA BELOW ISOLATED FORMgFINAL FORMcYEH WITH HAMZA ABOVE ISOLATED FORMgFINAL FORM
gINITIAL FORMgMEDIAL FORMcALEF ISOLATED FORMdFINAL FORMcBEH ISOLATED FORMdFINAL FORMdINITIAL FORM
dMEDIAL FORMcTEH MARBUTA ISOLATED FORMeFINAL FORMdISOLATED FORMdFINAL FORMdINITIAL FORM
dMEDIAL FORMcTHEH ISOLATED FORMdFINAL FORMdINITIAL FORMdMEDIAL FORMcJEEM ISOLATED FORMdFINAL FORM
dINITIAL FORMdMEDIAL FORMcHAH ISOLATED FORMdFINAL FORMdINITIAL FORMdMEDIAL FORMcKHAH ISOLATED FORM
dFINAL FORMdINITIAL FORMdMEDIAL FORMcDAL ISOLATED FORMdFINAL FORMcTHAL ISOLATED FORMdFINAL FORM
cREH ISOLATED FORMdFINAL FORMcZAIN ISOLATED FORMdFINAL FORMcSEEN ISOLATED FORMdFINAL FORM
dINITIAL FORMdMEDIAL FORMcSHEEN ISOLATED FORMdFINAL FORMdINITIAL FORMdMEDIAL FORM
cSAD ISOLATED FORMdFINAL FORMdINITIAL FORMdMEDIAL FORMcDAD ISOLATED FORMdFINAL FORMdINITIAL FORM
dMEDIAL FORMcTAH ISOLATED FORMdFINAL FORMdINITIAL FORMdMEDIAL FORMcZAH ISOLATED FORMdFINAL FORM
dINITIAL FORMdMEDIAL FORMcAIN ISOLATED FORMdFINAL FORMdINITIAL FORMdMEDIAL FORM
cGHAIN ISOLATED FORMdFINAL FORMdINITIAL FORMdMEDIAL FORMcFEH ISOLATED FORMdFINAL FORMdINITIAL FORM
dMEDIAL FORMcQAF ISOLATED FORMdFINAL FORMdINITIAL FORMdMEDIAL FORMcKAF ISOLATED FORMdFINAL FORM
dINITIAL FORMdMEDIAL FORMcLAM ISOLATED FORMdFINAL FORMdINITIAL FORMdMEDIAL FORMcMEEM ISOLATED FORM
dFINAL FORMdINITIAL FORMdMEDIAL FORMcNOON ISOLATED FORMdFINAL FORMdINITIAL FORMdMEDIAL FORM
cHEH ISOLATED FORMdFINAL FORMdINITIAL FORMdMEDIAL FORMcWAW ISOLATED FORMdFINAL FORM
cALEF MAKSURA ISOLATED FORMeFINAL FORMcYEH ISOLATED FORMdFINAL FORMdINITIAL FORMdMEDIAL FORM
bLIGATURE LAM WITH ALEF WITH MADDA ABOVE ISOLATED FORMiFINAL FORMgHAMZA ABOVE ISOLATED FORM
iFINAL FORMhBELOW ISOLATED FORMiFINAL FORMfISOLATED FORMfFINAL FORM:FEFFaZERO WIDTH NO-BREAK SPACE
:FF01aFULLWIDTH EXCLAMATION MARKbQUOTATION MARKbNUMBER SIGNbDOLLAR SIGNbPERCENT SIGNbAMPERSAND
bAPOSTROPHEbLEFT PARENTHESISbRIGHT PARENTHESISbASTERISKbPLUS SIGNbCOMMAbHYPHEN-MINUSbFULL STOP
bSOLIDUSbDIGIT ZEROcONEcTWOcTHREEcFOURcFIVEcSIXcSEVENcEIGHTcNINEbCOLONbSEMICOLONbLESS-THAN SIGN
bEQUALS SIGNbGREATER-THAN SIGNbQUESTION MARKbCOMMERCIAL ATbLATIN CAPITAL LETTER AeBeCeDeEeFeGeHeI
eJeKeLeMeNeOePeQeReSeTeUeVeWeXeYeZbLEFT SQUARE BRACKETbREVERSE SOLIDUSbRIGHT SQUARE BRACKET
bCIRCUMFLEX ACCENTbLOW LINEbGRAVE ACCENTbLATIN SMALL LETTER AeBeCeDeEeFeGeHeIeJeKeLeMeNeOePeQeReS
eTeUeVeWeXeYeZbLEFT CURLY BRACKETbVERTICAL LINEbRIGHT CURLY BRACKETbTILDEbLEFT WHITE PARENTHESIS
bRIGHT WHITE PARENTHESISaHALFWIDTH IDEOGRAPHIC FULL STOPbLEFT CORNER BRACKETbRIGHT CORNER BRACKET
bIDEOGRAPHIC COMMAbKATAKANA MIDDLE DOTcLETTER WOdSMALL AeIeUeEeOeYAeYUeYOeTU
bKATAKANA-HIRAGANA PROLONGED SOUND MARKbKATAKANA LETTER AdIdUdEdOdKAdKIdKUdKEdKOdSAdSIdSUdSEdSOdTA
dTIdTUdTEdTOdNAdNIdNUdNEdNOdHAdHIdHUdHEdHOdMAdMIdMUdMEdMOdYAdYUdYOdRAdRIdRUdREdROdWAdN
cVOICED SOUND MARKcSEMI-VOICED SOUND MARKbHANGUL FILLERcLETTER KIYEOKdSSANGKIYEOKdKIYEOK-SIOS
dNIEUNdNIEUN-CIEUCdNIEUN-HIEUHdTIKEUTdSSANGTIKEUTdRIEULdRIEUL-KIYEOKdRIEUL-MIEUMdRIEUL-PIEUP
dRIEUL-SIOSdRIEUL-THIEUTHdRIEUL-PHIEUPHdRIEUL-HIEUHdMIEUMdPIEUPdSSANGPIEUPdPIEUP-SIOSdSIOS
dSSANGSIOSdIEUNGdCIEUCdSSANGCIEUCdCHIEUCHdKHIEUKHdTHIEUTHdPHIEUPHdHIEUH:FFC2
aHALFWIDTH HANGUL LETTER AdAEdYAdYAEdEOdE:FFCAaHALFWIDTH HANGUL LETTER YEOdYEdOdWAdWAEdOE:FFD2
aHALFWIDTH HANGUL LETTER YOdUdWEOdWEdWIdYU:FFDAaHALFWIDTH HANGUL LETTER EUdYIdI:FFE0
aFULLWIDTH CENT SIGNbPOUND SIGNbNOT SIGNbMACRONbBROKEN BARbYEN SIGNbWON SIGN:FFE8
aHALFWIDTH FORMS LIGHT VERTICALbLEFTWARDS ARROWbUPWARDS ARROWbRIGHTWARDS ARROWbDOWNWARDS ARROW
bBLACK SQUAREbWHITE CIRCLE:FFF9aINTERLINEAR ANNOTATION ANCHORcSEPARATORcTERMINATOR
aOBJECT REPLACEMENT CHARACTERaREPLACEMENT CHARACTER:10000aLINEAR B SYLLABLE B008 AdB038 EdB028 I
dB061 OdB010 UdB001 DAdB045 DEdB007 DIdB014 DOdB051 DUdB057 JAdB046 JE:1000D
aLINEAR B SYLLABLE B036 JOdB065 JUdB077 KAdB044 KEdB067 KIdB070 KOdB081 KUdB080 MAdB013 MEdB073 MI
dB015 MOdB023 MUdB006 NAdB024 NEdB030 NIdB052 NOdB055 NUdB003 PAdB072 PEdB039 PIdB011 POdB050 PU
dB016 QAdB078 QEdB021 QIdB032 QO:10028aLINEAR B SYLLABLE B060 RAdB027 REdB053 RIdB002 ROdB026 RU
dB031 SAdB009 SEdB041 SIdB012 SOdB058 SUdB059 TAdB004 TEdB037 TIdB005 TOdB069 TUdB054 WAdB075 WE
dB040 WIdB042 WO:1003CaLINEAR B SYLLABLE B017 ZAdB074 ZE:1003FaLINEAR B SYLLABLE B020 ZOdB025 A2
dB043 A3dB085 AUdB071 DWEdB090 DWOdB048 NWAdB029 PU2dB062 PTEdB076 RA2dB033 RA3dB068 RO2dB066 TA2
dB087 TWEdB091 TWO:10050aLINEAR B SYMBOL B018dB019dB022dB034dB047dB049dB056dB063dB064dB079dB082
dB083dB086dB089:10080aLINEAR B IDEOGRAM B100 MANdB102 WOMANdB104 DEERdB105 EQUIDdB105F MARE
dB105M STALLIONdB106F EWEdB106M RAMdB107F SHE-GOATdB107M HE-GOATdB108F SOWdB108M BOARdB109F COW
dB109M BULLdB120 WHEATdB121 BARLEYdB122 OLIVEdB123 SPICEdB125 CYPERUScMONOGRAM B127 KAPO
dB128 KANAKOcIDEOGRAM B130 OILdB131 WINEdB132cMONOGRAM B133 AREPAdB135 MERIcIDEOGRAM B140 BRONZE
dB141 GOLDdB142dB145 WOOLdB146dB150dB151 HORNdB152dB153dB154cMONOGRAM B156 TURO2cIDEOGRAM B157
dB158dB159 CLOTHdB160dB161dB162 GARMENTdB163 ARMOURdB164dB165dB166dB167dB168dB169dB170dB171dB172
dB173 MONTHdB174dB176 TREEdB177dB178dB179dB180dB181dB182dB183dB184dB185dB189dB190dB191 HELMET
dB220 FOOTSTOOLdB225 BATHTUBdB230 SPEARdB231 ARROWdB232dB233 SWORDdB234dB236dB240 WHEELED CHARIOT
dB241 CHARIOTdB242 CHARIOT FRAMEdB243 WHEELdB245dB246cMONOGRAM B247 DIPTEcIDEOGRAM B248dB249dB251
dB252dB253dB254 DARTdB255dB256dB257dB258dB259dVESSEL B155eB200eB201eB202eB203eB204eB205eB206eB207
eB208eB209eB210eB211eB212eB213eB214eB215eB216eB217eB218eB219eB221eB222eB226eB227eB228eB229eB250
eB305:10100aAEGEAN WORD SEPARATOR LINEdDOTbCHECK MARK:10107aAEGEAN NUMBER ONEcTWOcTHREEcFOURcFIVE
cSIXcSEVENcEIGHTcNINEcTENcTWENTYcTHIRTYcFORTYcFIFTYcSIXTYcSEVENTYcEIGHTYcNINETYcONE HUNDRED
cTWO HUNDREDcTHREE HUNDREDcFOUR HUNDREDcFIVE HUNDREDcSIX HUNDREDcSEVEN HUNDREDcEIGHT HUNDRED
cNINE HUNDREDcONE THOUSANDcTWO THOUSANDcTHREE THOUSANDcFOUR THOUSANDcFIVE THOUSANDcSIX THOUSAND
cSEVEN THOUSANDcEIGHT THOUSANDcNINE THOUSANDcTEN THOUSANDcTWENTY THOUSANDcTHIRTY THOUSAND
cFORTY THOUSANDcFIFTY THOUSANDcSIXTY THOUSANDcSEVENTY THOUSANDcEIGHTY THOUSANDcNINETY THOUSAND
:10137aAEGEAN WEIGHT BASE UNITcFIRST SUBUNITcSECOND SUBUNITcTHIRD SUBUNITcFOURTH SUBUNIT
bDRY MEASURE FIRST SUBUNITbLIQUID MEASURE FIRST SUBUNITbMEASURE SECOND SUBUNITcTHIRD SUBUNIT
aGREEK ACROPHONIC ATTIC ONE QUARTEReHALFeDRACHMAdFIVEdFIFTYdFIVE HUNDREDeTHOUSANDdFIFTY THOUSAND
dFIVE TALENTSdTEN TALENTSdFIFTY TALENTSdONE HUNDRED TALENTSdFIVE HUNDRED TALENTS
dONE THOUSAND TALENTSdFIVE THOUSAND TALENTSeSTATERSdTEN STATERSdFIFTY STATERSdONE HUNDRED STATERS
dFIVE HUNDRED STATERSdONE THOUSAND STATERSdTEN THOUSAND STATERSdFIFTY THOUSAND STATERSdTEN MNAS
cHERAEUM ONE PLETHRONcTHESPIAN ONEcHERMIONIAN ONEcEPIDAUREAN TWOcTHESPIAN TWO
cCYRENAIC TWO DRACHMAScEPIDAUREAN TWO DRACHMAScTROEZENIAN FIVEdTENeALTERNATE FORMcHERMIONIAN TEN
cMESSENIAN TENcTHESPIAN TENdTHIRTYcTROEZENIAN FIFTYeALTERNATE FORMcHERMIONIAN FIFTYcTHESPIAN FIFTY
dONE HUNDREDdTHREE HUNDREDcEPIDAUREAN FIVE HUNDREDcTROEZENIAN FIVE HUNDREDcTHESPIAN FIVE HUNDRED
cCARYSTIAN FIVE HUNDREDcNAXIAN FIVE HUNDREDcTHESPIAN ONE THOUSANDdFIVE THOUSANDcDELPHIC FIVE MNAS
cSTRATIAN FIFTY MNASbONE HALF SIGNeALTERNATE FORMbTWO THIRDS SIGNbTHREE QUARTERS SIGNbYEAR SIGN
bTALENT SIGNbDRACHMA SIGNbOBOL SIGNbTWO OBOLS SIGNbTHREE OBOLS SIGNbFOUR OBOLS SIGN
bFIVE OBOLS SIGNbMETRETES SIGNbKYATHOS BASE SIGNbLITRA SIGNbOUNKIA SIGNbXESTES SIGNbARTABE SIGN
bAROURA SIGNbGRAMMA SIGNbTRYBLION BASE SIGNbZERO SIGNbONE QUARTER SIGNbSINUSOID SIGN
bINDICTION SIGNaNOMISMA SIGN:10190aROMAN SEXTANS SIGNbUNCIA SIGNbSEMUNCIA SIGNbSEXTULA SIGN
bDIMIDIA SEXTULA SIGNbSILIQUA SIGNbDENARIUS SIGNbQUINARIUS SIGNbSESTERTIUS SIGNbDUPONDIUS SIGN
bAS SIGNbCENTURIAL SIGNaASCIA SYMBOL:101A0aGREEK SYMBOL TAU RHO:101D0
aPHAISTOS DISC SIGN PEDESTRIANdPLUMED HEADdTATTOOED HEADdCAPTIVEdCHILDdWOMANdHELMETdGAUNTLETdTIARA
dARROWdBOWdSHIELDdCLUBdMANACLESdMATTOCKdSAWdLIDdBOOMERANGdCARPENTRY PLANEdDOLIUMdCOMBdSLINGdCOLUMN
dBEEHIVEdSHIPdHORNdHIDEdBULLS LEGdCATdRAMdEAGLEdDOVEdTUNNYdBEEdPLANE TREEdVINEdPAPYRUSdROSETTE
dLILYdOX BACKdFLUTEdGRATERdSTRAINERdSMALL AXEdWAVY BANDdCOMBINING OBLIQUE STROKE:10280
aLYCIAN LETTER AcEcBcBHcGcDcIcWcZcTHcJcKcQcLcMcNcMMcNNcUcPcKKcRcScTcTTcANcENcHcX:102A0
aCARIAN LETTER AcP2cDcLcUUUcRcLDcA2cQcBcMcOcD2cTcSHcSH2cScC-18cUcNNcXcNcTT2cPcSScIcEcUUUUcKcK2cND
cUUcGcG2cSTcST2cNGcIIcC-39cTTcUUU2cRRcMBcMB2cMB3cMB4cLD2cE2cUUU3:102E0aCOPTIC EPACT THOUSANDS MARK
cDIGIT ONEdTWOdTHREEdFOURdFIVEdSIXdSEVENdEIGHTdNINEcNUMBER TENdTWENTYdTHIRTYdFORTYdFIFTYdSIXTY
dSEVENTYdEIGHTYdNINETYdONE HUNDREDdTWO HUNDREDdTHREE HUNDREDdFOUR HUNDREDdFIVE HUNDREDdSIX HUNDRED
dSEVEN HUNDREDdEIGHT HUNDREDdNINE HUNDRED:10300aOLD ITALIC LETTER AdBEdKEdDEdEdVEdZEdHEdTHEdIdKA
dELdEMdENdESHdOdPEdSHEdKUdERdESdTEdUdEKSdPHEdKHEdEFdERSdCHEdIIdUUdESScNUMERAL ONEdFIVEdTENdFIFTY
:1032DaOLD ITALIC LETTER YEdNORTHERN TSEdSOUTHERN TSEaGOTHIC LETTER AHSAcBAIRKANcGIBAcDAGScAIHVUS
cQAIRTHRAcIUJAcHAGLcTHIUTHcEIScKUSMAcLAGUScMANNAcNAUTHScJERcURUScPAIRTHRAcNINETYcRAIDAcSAUILcTEIWS
cWINJAcFAIHUcIGGWScHWAIRcOTHALcNINE HUNDRED:10350aOLD PERMIC LETTER ANdBURdGAIdDOIdEdZHOIdDZHOI
dZATAdDZITAdIdKOKEdLEIdMENOEdNENOEdVOOIdPEEIdREIdSIIdTAIdUdCHERYdSHOOIdSHCHOOIdYRYdYERUdOdOOdEFdHA
dTSIUdVERdYERdYERIdYATdIEdYUdYAdIAaCOMBINING OLD PERMIC LETTER ANeDOIeZATAeNENOEeSII:10380
aUGARITIC LETTER ALPAcBETAcGAMLAcKHAcDELTAcHOcWOcZETAcHOTAcTETcYODcKAFcSHINcLAMDAcMEMcDHALcNUNcZU
cSAMKAcAINcPUcSADEcQOPAcRASHAcTHANNAcGHAINcTOcIcUcSSU:1039FaUGARITIC WORD DIVIDER
aOLD PERSIAN SIGN AdIdUdKAdKUdGAdGUdXAdCAdJAdJIdTAdTUdDAdDIdDUdTHAdPAdBAdFAdNAdNUdMAdMIdMUdYAdVA
dVIdRAdRUdLAdSAdZAdSHAdSSAdHA:103C8aOLD PERSIAN SIGN AURAMAZDAAdAURAMAZDAA-2dAURAMAZDAAHA
dXSHAAYATHIYAdDAHYAAUSHdDAHYAAUSH-2dBAGAdBUUMISHcWORD DIVIDERcNUMBER ONEdTWOdTENdTWENTYdHUNDRED"

end TicketMigration.CharacterName
