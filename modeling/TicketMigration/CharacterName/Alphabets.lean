/-!
# Names of characters: alphabets

The alphabets of Europe and of the Near East, with the signs that go with them.

## Main definitions

* `alphabets` is the table.
-/

namespace TicketMigration.CharacterName

/-- The table.  Behind a colon stands the code of a character.  Each name begins with a small
letter, which says how many words it has in common with the name before, and is the name of the
next code. -/
def alphabets : String :=
  ":20aSPACEaEXCLAMATION MARKaQUOTATION MARKaNUMBER SIGNaDOLLAR SIGNaPERCENT SIGNaAMPERSAND
aAPOSTROPHEaLEFT PARENTHESISaRIGHT PARENTHESISaASTERISKaPLUS SIGNaCOMMAaHYPHEN-MINUSaFULL STOP
aSOLIDUSaDIGIT ZERObONEbTWObTHREEbFOURbFIVEbSIXbSEVENbEIGHTbNINEaCOLONaSEMICOLONaLESS-THAN SIGN
aEQUALS SIGNaGREATER-THAN SIGNaQUESTION MARKaCOMMERCIAL ATaLATIN CAPITAL LETTER AdBdCdDdEdFdGdHdI
dJdKdLdMdNdOdPdQdRdSdTdUdVdWdXdYdZaLEFT SQUARE BRACKETaREVERSE SOLIDUSaRIGHT SQUARE BRACKET
aCIRCUMFLEX ACCENTaLOW LINEaGRAVE ACCENTaLATIN SMALL LETTER AdBdCdDdEdFdGdHdIdJdKdLdMdNdOdPdQdRdS
dTdUdVdWdXdYdZaLEFT CURLY BRACKETaVERTICAL LINEaRIGHT CURLY BRACKETaTILDE:A0aNO-BREAK SPACE
aINVERTED EXCLAMATION MARKaCENT SIGNaPOUND SIGNaCURRENCY SIGNaYEN SIGNaBROKEN BARaSECTION SIGN
aDIAERESISaCOPYRIGHT SIGNaFEMININE ORDINAL INDICATORaLEFT-POINTING DOUBLE ANGLE QUOTATION MARK
aNOT SIGNaSOFT HYPHENaREGISTERED SIGNaMACRONaDEGREE SIGNaPLUS-MINUS SIGNaSUPERSCRIPT TWObTHREE
aACUTE ACCENTaMICRO SIGNaPILCROW SIGNaMIDDLE DOTaCEDILLAaSUPERSCRIPT ONE
aMASCULINE ORDINAL INDICATORaRIGHT-POINTING DOUBLE ANGLE QUOTATION MARK
aVULGAR FRACTION ONE QUARTERdHALFcTHREE QUARTERSaINVERTED QUESTION MARK
aLATIN CAPITAL LETTER A WITH GRAVEfACUTEfCIRCUMFLEXfTILDEfDIAERESISfRING ABOVEdAEdC WITH CEDILLA
dE WITH GRAVEfACUTEfCIRCUMFLEXfDIAERESISdI WITH GRAVEfACUTEfCIRCUMFLEXfDIAERESISdETHdN WITH TILDE
dO WITH GRAVEfACUTEfCIRCUMFLEXfTILDEfDIAERESISaMULTIPLICATION SIGN
aLATIN CAPITAL LETTER O WITH STROKEdU WITH GRAVEfACUTEfCIRCUMFLEXfDIAERESISdY WITH ACUTEdTHORN
bSMALL LETTER SHARP SdA WITH GRAVEfACUTEfCIRCUMFLEXfTILDEfDIAERESISfRING ABOVEdAEdC WITH CEDILLA
dE WITH GRAVEfACUTEfCIRCUMFLEXfDIAERESISdI WITH GRAVEfACUTEfCIRCUMFLEXfDIAERESISdETHdN WITH TILDE
dO WITH GRAVEfACUTEfCIRCUMFLEXfTILDEfDIAERESISaDIVISION SIGNaLATIN SMALL LETTER O WITH STROKE
dU WITH GRAVEfACUTEfCIRCUMFLEXfDIAERESISdY WITH ACUTEdTHORNdY WITH DIAERESIS
bCAPITAL LETTER A WITH MACRONbSMALL LETTER A WITH MACRONbCAPITAL LETTER A WITH BREVE
bSMALL LETTER A WITH BREVEbCAPITAL LETTER A WITH OGONEKbSMALL LETTER A WITH OGONEK
bCAPITAL LETTER C WITH ACUTEbSMALL LETTER C WITH ACUTEbCAPITAL LETTER C WITH CIRCUMFLEX
bSMALL LETTER C WITH CIRCUMFLEXbCAPITAL LETTER C WITH DOT ABOVEbSMALL LETTER C WITH DOT ABOVE
bCAPITAL LETTER C WITH CARONbSMALL LETTER C WITH CARONbCAPITAL LETTER D WITH CARON
bSMALL LETTER D WITH CARONbCAPITAL LETTER D WITH STROKEbSMALL LETTER D WITH STROKE
bCAPITAL LETTER E WITH MACRONbSMALL LETTER E WITH MACRONbCAPITAL LETTER E WITH BREVE
bSMALL LETTER E WITH BREVEbCAPITAL LETTER E WITH DOT ABOVEbSMALL LETTER E WITH DOT ABOVE
bCAPITAL LETTER E WITH OGONEKbSMALL LETTER E WITH OGONEKbCAPITAL LETTER E WITH CARON
bSMALL LETTER E WITH CARONbCAPITAL LETTER G WITH CIRCUMFLEXbSMALL LETTER G WITH CIRCUMFLEX
bCAPITAL LETTER G WITH BREVEbSMALL LETTER G WITH BREVEbCAPITAL LETTER G WITH DOT ABOVE
bSMALL LETTER G WITH DOT ABOVEbCAPITAL LETTER G WITH CEDILLAbSMALL LETTER G WITH CEDILLA
bCAPITAL LETTER H WITH CIRCUMFLEXbSMALL LETTER H WITH CIRCUMFLEXbCAPITAL LETTER H WITH STROKE
bSMALL LETTER H WITH STROKEbCAPITAL LETTER I WITH TILDEbSMALL LETTER I WITH TILDE
bCAPITAL LETTER I WITH MACRONbSMALL LETTER I WITH MACRONbCAPITAL LETTER I WITH BREVE
bSMALL LETTER I WITH BREVEbCAPITAL LETTER I WITH OGONEKbSMALL LETTER I WITH OGONEK
bCAPITAL LETTER I WITH DOT ABOVEbSMALL LETTER DOTLESS IbCAPITAL LIGATURE IJbSMALL LIGATURE IJ
bCAPITAL LETTER J WITH CIRCUMFLEXbSMALL LETTER J WITH CIRCUMFLEXbCAPITAL LETTER K WITH CEDILLA
bSMALL LETTER K WITH CEDILLAdKRAbCAPITAL LETTER L WITH ACUTEbSMALL LETTER L WITH ACUTE
bCAPITAL LETTER L WITH CEDILLAbSMALL LETTER L WITH CEDILLAbCAPITAL LETTER L WITH CARON
bSMALL LETTER L WITH CARONbCAPITAL LETTER L WITH MIDDLE DOTbSMALL LETTER L WITH MIDDLE DOT
bCAPITAL LETTER L WITH STROKEbSMALL LETTER L WITH STROKEbCAPITAL LETTER N WITH ACUTE
bSMALL LETTER N WITH ACUTEbCAPITAL LETTER N WITH CEDILLAbSMALL LETTER N WITH CEDILLA
bCAPITAL LETTER N WITH CARONbSMALL LETTER N WITH CARONePRECEDED BY APOSTROPHEbCAPITAL LETTER ENG
bSMALL LETTER ENGbCAPITAL LETTER O WITH MACRONbSMALL LETTER O WITH MACRON
bCAPITAL LETTER O WITH BREVEbSMALL LETTER O WITH BREVEbCAPITAL LETTER O WITH DOUBLE ACUTE
bSMALL LETTER O WITH DOUBLE ACUTEbCAPITAL LIGATURE OEbSMALL LIGATURE OE
bCAPITAL LETTER R WITH ACUTEbSMALL LETTER R WITH ACUTEbCAPITAL LETTER R WITH CEDILLA
bSMALL LETTER R WITH CEDILLAbCAPITAL LETTER R WITH CARONbSMALL LETTER R WITH CARON
bCAPITAL LETTER S WITH ACUTEbSMALL LETTER S WITH ACUTEbCAPITAL LETTER S WITH CIRCUMFLEX
bSMALL LETTER S WITH CIRCUMFLEXbCAPITAL LETTER S WITH CEDILLAbSMALL LETTER S WITH CEDILLA
bCAPITAL LETTER S WITH CARONbSMALL LETTER S WITH CARONbCAPITAL LETTER T WITH CEDILLA
bSMALL LETTER T WITH CEDILLAbCAPITAL LETTER T WITH CARONbSMALL LETTER T WITH CARON
bCAPITAL LETTER T WITH STROKEbSMALL LETTER T WITH STROKEbCAPITAL LETTER U WITH TILDE
bSMALL LETTER U WITH TILDEbCAPITAL LETTER U WITH MACRONbSMALL LETTER U WITH MACRON
bCAPITAL LETTER U WITH BREVEbSMALL LETTER U WITH BREVEbCAPITAL LETTER U WITH RING ABOVE
bSMALL LETTER U WITH RING ABOVEbCAPITAL LETTER U WITH DOUBLE ACUTE
bSMALL LETTER U WITH DOUBLE ACUTEbCAPITAL LETTER U WITH OGONEKbSMALL LETTER U WITH OGONEK
bCAPITAL LETTER W WITH CIRCUMFLEXbSMALL LETTER W WITH CIRCUMFLEXbCAPITAL LETTER Y WITH CIRCUMFLEX
bSMALL LETTER Y WITH CIRCUMFLEXbCAPITAL LETTER Y WITH DIAERESISdZ WITH ACUTE
bSMALL LETTER Z WITH ACUTEbCAPITAL LETTER Z WITH DOT ABOVEbSMALL LETTER Z WITH DOT ABOVE
bCAPITAL LETTER Z WITH CARONbSMALL LETTER Z WITH CARONdLONG SdB WITH STROKE
bCAPITAL LETTER B WITH HOOKfTOPBARbSMALL LETTER B WITH TOPBARbCAPITAL LETTER TONE SIX
bSMALL LETTER TONE SIXbCAPITAL LETTER OPEN OdC WITH HOOKbSMALL LETTER C WITH HOOK
bCAPITAL LETTER AFRICAN DdD WITH HOOKfTOPBARbSMALL LETTER D WITH TOPBARdTURNED DELTA
bCAPITAL LETTER REVERSED EdSCHWAdOPEN EdF WITH HOOKbSMALL LETTER F WITH HOOK
bCAPITAL LETTER G WITH HOOKdGAMMAbSMALL LETTER HVbCAPITAL LETTER IOTAdI WITH STROKEdK WITH HOOK
bSMALL LETTER K WITH HOOKdL WITH BARdLAMBDA WITH STROKEbCAPITAL LETTER TURNED MdN WITH LEFT HOOK
bSMALL LETTER N WITH LONG RIGHT LEGbCAPITAL LETTER O WITH MIDDLE TILDEfHORN
bSMALL LETTER O WITH HORNbCAPITAL LETTER OIbSMALL LETTER OIbCAPITAL LETTER P WITH HOOK
bSMALL LETTER P WITH HOOKbLETTER YRbCAPITAL LETTER TONE TWObSMALL LETTER TONE TWO
bCAPITAL LETTER ESHbLETTER REVERSED ESH LOOPbSMALL LETTER T WITH PALATAL HOOK
bCAPITAL LETTER T WITH HOOKbSMALL LETTER T WITH HOOKbCAPITAL LETTER T WITH RETROFLEX HOOK
dU WITH HORNbSMALL LETTER U WITH HORNbCAPITAL LETTER UPSILONdV WITH HOOKdY WITH HOOK
bSMALL LETTER Y WITH HOOKbCAPITAL LETTER Z WITH STROKEbSMALL LETTER Z WITH STROKE
bCAPITAL LETTER EZHeREVERSEDbSMALL LETTER EZH REVERSEDeWITH TAILbLETTER TWO WITH STROKE
bCAPITAL LETTER TONE FIVEbSMALL LETTER TONE FIVEbLETTER INVERTED GLOTTAL STOP WITH STROKEcWYNN
cDENTAL CLICKcLATERAL CLICKcALVEOLAR CLICKcRETROFLEX CLICKbCAPITAL LETTER DZ WITH CARON
dD WITH SMALL LETTER Z WITH CARONbSMALL LETTER DZ WITH CARONbCAPITAL LETTER LJ
dL WITH SMALL LETTER JbSMALL LETTER LJbCAPITAL LETTER NJdN WITH SMALL LETTER JbSMALL LETTER NJ
bCAPITAL LETTER A WITH CARONbSMALL LETTER A WITH CARONbCAPITAL LETTER I WITH CARON
bSMALL LETTER I WITH CARONbCAPITAL LETTER O WITH CARONbSMALL LETTER O WITH CARON
bCAPITAL LETTER U WITH CARONbSMALL LETTER U WITH CARONbCAPITAL LETTER U WITH DIAERESIS AND MACRON
bSMALL LETTER U WITH DIAERESIS AND MACRONbCAPITAL LETTER U WITH DIAERESIS AND ACUTE
bSMALL LETTER U WITH DIAERESIS AND ACUTEbCAPITAL LETTER U WITH DIAERESIS AND CARON
bSMALL LETTER U WITH DIAERESIS AND CARONbCAPITAL LETTER U WITH DIAERESIS AND GRAVE
bSMALL LETTER U WITH DIAERESIS AND GRAVEdTURNED EbCAPITAL LETTER A WITH DIAERESIS AND MACRON
bSMALL LETTER A WITH DIAERESIS AND MACRONbCAPITAL LETTER A WITH DOT ABOVE AND MACRON
bSMALL LETTER A WITH DOT ABOVE AND MACRONbCAPITAL LETTER AE WITH MACRON
bSMALL LETTER AE WITH MACRONbCAPITAL LETTER G WITH STROKEbSMALL LETTER G WITH STROKE
bCAPITAL LETTER G WITH CARONbSMALL LETTER G WITH CARONbCAPITAL LETTER K WITH CARON
bSMALL LETTER K WITH CARONbCAPITAL LETTER O WITH OGONEKbSMALL LETTER O WITH OGONEK
bCAPITAL LETTER O WITH OGONEK AND MACRONbSMALL LETTER O WITH OGONEK AND MACRON
bCAPITAL LETTER EZH WITH CARONbSMALL LETTER EZH WITH CARONdJ WITH CARONbCAPITAL LETTER DZ
dD WITH SMALL LETTER ZbSMALL LETTER DZbCAPITAL LETTER G WITH ACUTEbSMALL LETTER G WITH ACUTE
bCAPITAL LETTER HWAIRdWYNNdN WITH GRAVEbSMALL LETTER N WITH GRAVE
bCAPITAL LETTER A WITH RING ABOVE AND ACUTEbSMALL LETTER A WITH RING ABOVE AND ACUTE
bCAPITAL LETTER AE WITH ACUTEbSMALL LETTER AE WITH ACUTEbCAPITAL LETTER O WITH STROKE AND ACUTE
bSMALL LETTER O WITH STROKE AND ACUTEbCAPITAL LETTER A WITH DOUBLE GRAVE
bSMALL LETTER A WITH DOUBLE GRAVEbCAPITAL LETTER A WITH INVERTED BREVE
bSMALL LETTER A WITH INVERTED BREVEbCAPITAL LETTER E WITH DOUBLE GRAVE
bSMALL LETTER E WITH DOUBLE GRAVEbCAPITAL LETTER E WITH INVERTED BREVE
bSMALL LETTER E WITH INVERTED BREVEbCAPITAL LETTER I WITH DOUBLE GRAVE
bSMALL LETTER I WITH DOUBLE GRAVEbCAPITAL LETTER I WITH INVERTED BREVE
bSMALL LETTER I WITH INVERTED BREVEbCAPITAL LETTER O WITH DOUBLE GRAVE
bSMALL LETTER O WITH DOUBLE GRAVEbCAPITAL LETTER O WITH INVERTED BREVE
bSMALL LETTER O WITH INVERTED BREVEbCAPITAL LETTER R WITH DOUBLE GRAVE
bSMALL LETTER R WITH DOUBLE GRAVEbCAPITAL LETTER R WITH INVERTED BREVE
bSMALL LETTER R WITH INVERTED BREVEbCAPITAL LETTER U WITH DOUBLE GRAVE
bSMALL LETTER U WITH DOUBLE GRAVEbCAPITAL LETTER U WITH INVERTED BREVE
bSMALL LETTER U WITH INVERTED BREVEbCAPITAL LETTER S WITH COMMA BELOW
bSMALL LETTER S WITH COMMA BELOWbCAPITAL LETTER T WITH COMMA BELOWbSMALL LETTER T WITH COMMA BELOW
bCAPITAL LETTER YOGHbSMALL LETTER YOGHbCAPITAL LETTER H WITH CARONbSMALL LETTER H WITH CARON
bCAPITAL LETTER N WITH LONG RIGHT LEGbSMALL LETTER D WITH CURLbCAPITAL LETTER OUbSMALL LETTER OU
bCAPITAL LETTER Z WITH HOOKbSMALL LETTER Z WITH HOOKbCAPITAL LETTER A WITH DOT ABOVE
bSMALL LETTER A WITH DOT ABOVEbCAPITAL LETTER E WITH CEDILLAbSMALL LETTER E WITH CEDILLA
bCAPITAL LETTER O WITH DIAERESIS AND MACRONbSMALL LETTER O WITH DIAERESIS AND MACRON
bCAPITAL LETTER O WITH TILDE AND MACRONbSMALL LETTER O WITH TILDE AND MACRON
bCAPITAL LETTER O WITH DOT ABOVEbSMALL LETTER O WITH DOT ABOVE
bCAPITAL LETTER O WITH DOT ABOVE AND MACRONbSMALL LETTER O WITH DOT ABOVE AND MACRON
bCAPITAL LETTER Y WITH MACRONbSMALL LETTER Y WITH MACRONdL WITH CURLdN WITH CURLdT WITH CURL
dDOTLESS JdDB DIGRAPHdQP DIGRAPHbCAPITAL LETTER A WITH STROKEdC WITH STROKE
bSMALL LETTER C WITH STROKEbCAPITAL LETTER L WITH BARdT WITH DIAGONAL STROKE
bSMALL LETTER S WITH SWASH TAILdZ WITH SWASH TAILbCAPITAL LETTER GLOTTAL STOP
bSMALL LETTER GLOTTAL STOPbCAPITAL LETTER B WITH STROKEdU BARdTURNED VdE WITH STROKE
bSMALL LETTER E WITH STROKEbCAPITAL LETTER J WITH STROKEbSMALL LETTER J WITH STROKE
bCAPITAL LETTER SMALL Q WITH HOOK TAILbSMALL LETTER Q WITH HOOK TAILbCAPITAL LETTER R WITH STROKE
bSMALL LETTER R WITH STROKEbCAPITAL LETTER Y WITH STROKEbSMALL LETTER Y WITH STROKEdTURNED AdALPHA
dTURNED ALPHAdB WITH HOOKdOPEN OdC WITH CURLdD WITH TAILfHOOKdREVERSED EdSCHWAeWITH HOOKdOPEN E
dREVERSED OPEN EgWITH HOOKdCLOSED REVERSED OPEN EdDOTLESS J WITH STROKEdG WITH HOOKdSCRIPT G
bLETTER SMALL CAPITAL GbSMALL LETTER GAMMAdRAMS HORNdTURNED HdH WITH HOOKdHENG WITH HOOK
dI WITH STROKEdIOTAbLETTER SMALL CAPITAL IbSMALL LETTER L WITH MIDDLE TILDEfBELTfRETROFLEX HOOK
dLEZHdTURNED MfWITH LONG LEGdM WITH HOOKdN WITH LEFT HOOKfRETROFLEX HOOKbLETTER SMALL CAPITAL N
bSMALL LETTER BARRED ObLETTER SMALL CAPITAL OEbSMALL LETTER CLOSED OMEGAdPHIdTURNED R
fWITH LONG LEGgHOOKdR WITH LONG LEGfTAILfFISHHOOKdREVERSED R WITH FISHHOOKbLETTER SMALL CAPITAL R
eINVERTED RbSMALL LETTER S WITH HOOKdESHdDOTLESS J WITH STROKE AND HOOKdSQUAT REVERSED ESH
dESH WITH CURLdTURNED TdT WITH RETROFLEX HOOKdU BARdUPSILONdV WITH HOOKdTURNED VeWeY
bLETTER SMALL CAPITAL YbSMALL LETTER Z WITH RETROFLEX HOOKfCURLdEZHeWITH CURLbLETTER GLOTTAL STOP
cPHARYNGEAL VOICED FRICATIVEcINVERTED GLOTTAL STOPcSTRETCHED CcBILABIAL CLICKcSMALL CAPITAL B
bSMALL LETTER CLOSED OPEN EbLETTER SMALL CAPITAL G WITH HOOKeHbSMALL LETTER J WITH CROSSED-TAIL
dTURNED KbLETTER SMALL CAPITAL LbSMALL LETTER Q WITH HOOKbLETTER GLOTTAL STOP WITH STROKE
cREVERSED GLOTTAL STOP WITH STROKEbSMALL LETTER DZ DIGRAPHdDEZH DIGRAPHdDZ DIGRAPH WITH CURL
dTS DIGRAPHdTESH DIGRAPHdTC DIGRAPH WITH CURLdFENG DIGRAPHdLS DIGRAPHdLZ DIGRAPH
bLETTER BILABIAL PERCUSSIVEcBIDENTAL PERCUSSIVEbSMALL LETTER TURNED H WITH FISHHOOKhAND TAIL
aMODIFIER LETTER SMALL HeWITH HOOKdJdRdTURNED RfWITH HOOKdCAPITAL INVERTED RdWdYcPRIME
cDOUBLE PRIMEcTURNED COMMAcAPOSTROPHEcREVERSED COMMAcRIGHT HALF RINGcLEFT HALF RINGcGLOTTAL STOP
cREVERSED GLOTTAL STOPcLEFT ARROWHEADcRIGHT ARROWHEADcUP ARROWHEADcDOWN ARROWHEAD
cCIRCUMFLEX ACCENTaCARONaMODIFIER LETTER VERTICAL LINEcMACRONcACUTE ACCENTcGRAVE ACCENT
cLOW VERTICAL LINEdMACRONdGRAVE ACCENTdACUTE ACCENTcTRIANGULAR COLONcHALF TRIANGULAR COLON
cCENTRED RIGHT HALF RINGdLEFT HALF RINGcUP TACKcDOWN TACKcPLUS SIGNcMINUS SIGNaBREVEaDOT ABOVE
aRING ABOVEaOGONEKaSMALL TILDEaDOUBLE ACUTE ACCENTaMODIFIER LETTER RHOTIC HOOKcCROSS ACCENT
cSMALL GAMMAdLdSdXdREVERSED GLOTTAL STOPcEXTRA-HIGH TONE BARcHIGH TONE BARcMID TONE BAR
cLOW TONE BARcEXTRA-LOW TONE BARcYIN DEPARTING TONE MARKcYANG DEPARTING TONE MARKcVOICING
cUNASPIRATEDcDOUBLE APOSTROPHEcLOW DOWN ARROWHEADdUP ARROWHEADdLEFT ARROWHEADdRIGHT ARROWHEADdRING
cMIDDLE GRAVE ACCENTdDOUBLE GRAVE ACCENTeACUTE ACCENTcLOW TILDEcRAISED COLONcBEGIN HIGH TONE
cEND HIGH TONEcBEGIN LOW TONEcEND LOW TONEcSHELFcOPEN SHELFcLOW LEFT ARROWaCOMBINING GRAVE ACCENT
bACUTE ACCENTbCIRCUMFLEX ACCENTbTILDEbMACRONbOVERLINEbBREVEbDOT ABOVEbDIAERESISbHOOK ABOVE
bRING ABOVEbDOUBLE ACUTE ACCENTbCARONbVERTICAL LINE ABOVEbDOUBLE VERTICAL LINE ABOVEcGRAVE ACCENT
bCANDRABINDUbINVERTED BREVEbTURNED COMMA ABOVEbCOMMA ABOVEbREVERSED COMMA ABOVEbCOMMA ABOVE RIGHT
bGRAVE ACCENT BELOWbACUTE ACCENT BELOWbLEFT TACK BELOWbRIGHT TACK BELOWbLEFT ANGLE ABOVEbHORN
bLEFT HALF RING BELOWbUP TACK BELOWbDOWN TACK BELOWbPLUS SIGN BELOWbMINUS SIGN BELOW
bPALATALIZED HOOK BELOWbRETROFLEX HOOK BELOWbDOT BELOWbDIAERESIS BELOWbRING BELOWbCOMMA BELOW
bCEDILLAbOGONEKbVERTICAL LINE BELOWbBRIDGE BELOWbINVERTED DOUBLE ARCH BELOWbCARON BELOW
bCIRCUMFLEX ACCENT BELOWbBREVE BELOWbINVERTED BREVE BELOWbTILDE BELOWbMACRON BELOWbLOW LINE
bDOUBLE LOW LINEbTILDE OVERLAYbSHORT STROKE OVERLAYbLONG STROKE OVERLAYbSHORT SOLIDUS OVERLAY
bLONG SOLIDUS OVERLAYbRIGHT HALF RING BELOWbINVERTED BRIDGE BELOWbSQUARE BELOWbSEAGULL BELOW
bX ABOVEbVERTICAL TILDEbDOUBLE OVERLINEbGRAVE TONE MARKbACUTE TONE MARKbGREEK PERISPOMENIcKORONIS
cDIALYTIKA TONOScYPOGEGRAMMENIbBRIDGE ABOVEbEQUALS SIGN BELOWbDOUBLE VERTICAL LINE BELOW
bLEFT ANGLE BELOWbNOT TILDE ABOVEbHOMOTHETIC ABOVEbALMOST EQUAL TO ABOVEbLEFT RIGHT ARROW BELOW
bUPWARDS ARROW BELOWbGRAPHEME JOINERbRIGHT ARROWHEAD ABOVEbLEFT HALF RING ABOVEbFERMATAbX BELOW
bLEFT ARROWHEAD BELOWbRIGHT ARROWHEAD BELOWdAND UP ARROWHEAD BELOWcHALF RING ABOVEbDOT ABOVE RIGHT
bASTERISK BELOWbDOUBLE RING BELOWbZIGZAG ABOVEbDOUBLE BREVE BELOWcBREVEcMACRONdBELOWcTILDE
cINVERTED BREVEcRIGHTWARDS ARROW BELOWbLATIN SMALL LETTER AeEeIeOeUeCeDeHeMeReTeVeX
aGREEK CAPITAL LETTER HETAbSMALL LETTER HETAbCAPITAL LETTER ARCHAIC SAMPI
bSMALL LETTER ARCHAIC SAMPIbNUMERAL SIGNbLOWER NUMERAL SIGNbCAPITAL LETTER PAMPHYLIAN DIGAMMA
bSMALL LETTER PAMPHYLIAN DIGAMMA:37AaGREEK YPOGEGRAMMENIbSMALL REVERSED LUNATE SIGMA SYMBOL
cDOTTED LUNATE SIGMA SYMBOLcREVERSED DOTTED LUNATE SIGMA SYMBOLbQUESTION MARKbCAPITAL LETTER YOT
:384aGREEK TONOSbDIALYTIKA TONOSbCAPITAL LETTER ALPHA WITH TONOSbANO TELEIA
bCAPITAL LETTER EPSILON WITH TONOSdETA WITH TONOSdIOTA WITH TONOS:38C
aGREEK CAPITAL LETTER OMICRON WITH TONOS:38EaGREEK CAPITAL LETTER UPSILON WITH TONOS
dOMEGA WITH TONOSbSMALL LETTER IOTA WITH DIALYTIKA AND TONOSbCAPITAL LETTER ALPHAdBETAdGAMMAdDELTA
dEPSILONdZETAdETAdTHETAdIOTAdKAPPAdLAMDAdMUdNUdXIdOMICRONdPIdRHO:3A3aGREEK CAPITAL LETTER SIGMA
dTAUdUPSILONdPHIdCHIdPSIdOMEGAdIOTA WITH DIALYTIKAdUPSILON WITH DIALYTIKA
bSMALL LETTER ALPHA WITH TONOSdEPSILON WITH TONOSdETA WITH TONOSdIOTA WITH TONOS
dUPSILON WITH DIALYTIKA AND TONOSdALPHAdBETAdGAMMAdDELTAdEPSILONdZETAdETAdTHETAdIOTAdKAPPAdLAMDA
dMUdNUdXIdOMICRONdPIdRHOdFINAL SIGMAdSIGMAdTAUdUPSILONdPHIdCHIdPSIdOMEGAdIOTA WITH DIALYTIKA
dUPSILON WITH DIALYTIKAdOMICRON WITH TONOSdUPSILON WITH TONOSdOMEGA WITH TONOSbCAPITAL KAI SYMBOL
bBETA SYMBOLbTHETA SYMBOLbUPSILON WITH HOOK SYMBOLdACUTE AND HOOK SYMBOLdDIAERESIS AND HOOK SYMBOL
bPHI SYMBOLbPI SYMBOLbKAI SYMBOLbLETTER ARCHAIC KOPPAbSMALL LETTER ARCHAIC KOPPAbLETTER STIGMA
bSMALL LETTER STIGMAbLETTER DIGAMMAbSMALL LETTER DIGAMMAbLETTER KOPPAbSMALL LETTER KOPPA
bLETTER SAMPIbSMALL LETTER SAMPIaCOPTIC CAPITAL LETTER SHEIbSMALL LETTER SHEIbCAPITAL LETTER FEI
bSMALL LETTER FEIbCAPITAL LETTER KHEIbSMALL LETTER KHEIbCAPITAL LETTER HORIbSMALL LETTER HORI
bCAPITAL LETTER GANGIAbSMALL LETTER GANGIAbCAPITAL LETTER SHIMAbSMALL LETTER SHIMA
bCAPITAL LETTER DEIbSMALL LETTER DEIaGREEK KAPPA SYMBOLbRHO SYMBOLbLUNATE SIGMA SYMBOLbLETTER YOT
bCAPITAL THETA SYMBOLbLUNATE EPSILON SYMBOLbREVERSED LUNATE EPSILON SYMBOLbCAPITAL LETTER SHO
bSMALL LETTER SHObCAPITAL LUNATE SIGMA SYMBOLcLETTER SANbSMALL LETTER SANbRHO WITH STROKE SYMBOL
bCAPITAL REVERSED LUNATE SIGMA SYMBOLcDOTTED LUNATE SIGMA SYMBOL
cREVERSED DOTTED LUNATE SIGMA SYMBOLaCYRILLIC CAPITAL LETTER IE WITH GRAVEdIOdDJEdGJEdUKRAINIAN IE
dDZEdBYELORUSSIAN-UKRAINIAN IdYIdJEdLJEdNJEdTSHEdKJEdI WITH GRAVEdSHORT UdDZHEdAdBEdVEdGHEdDEdIE
dZHEdZEdIdSHORT IdKAdELdEMdENdOdPEdERdESdTEdUdEFdHAdTSEdCHEdSHAdSHCHAdHARD SIGNdYERUdSOFT SIGNdE
dYUdYAbSMALL LETTER AdBEdVEdGHEdDEdIEdZHEdZEdIdSHORT IdKAdELdEMdENdOdPEdERdESdTEdUdEFdHAdTSEdCHE
dSHAdSHCHAdHARD SIGNdYERUdSOFT SIGNdEdYUdYAdIE WITH GRAVEdIOdDJEdGJEdUKRAINIAN IEdDZE
dBYELORUSSIAN-UKRAINIAN IdYIdJEdLJEdNJEdTSHEdKJEdI WITH GRAVEdSHORT UdDZHEbCAPITAL LETTER OMEGA
bSMALL LETTER OMEGAbCAPITAL LETTER YATbSMALL LETTER YATbCAPITAL LETTER IOTIFIED E
bSMALL LETTER IOTIFIED EbCAPITAL LETTER LITTLE YUSbSMALL LETTER LITTLE YUS
bCAPITAL LETTER IOTIFIED LITTLE YUSbSMALL LETTER IOTIFIED LITTLE YUSbCAPITAL LETTER BIG YUS
bSMALL LETTER BIG YUSbCAPITAL LETTER IOTIFIED BIG YUSbSMALL LETTER IOTIFIED BIG YUS
bCAPITAL LETTER KSIbSMALL LETTER KSIbCAPITAL LETTER PSIbSMALL LETTER PSIbCAPITAL LETTER FITA
bSMALL LETTER FITAbCAPITAL LETTER IZHITSAbSMALL LETTER IZHITSA
bCAPITAL LETTER IZHITSA WITH DOUBLE GRAVE ACCENTbSMALL LETTER IZHITSA WITH DOUBLE GRAVE ACCENT
bCAPITAL LETTER UKbSMALL LETTER UKbCAPITAL LETTER ROUND OMEGAbSMALL LETTER ROUND OMEGA
bCAPITAL LETTER OMEGA WITH TITLObSMALL LETTER OMEGA WITH TITLObCAPITAL LETTER OTbSMALL LETTER OT
bCAPITAL LETTER KOPPAbSMALL LETTER KOPPAbTHOUSANDS SIGNaCOMBINING CYRILLIC TITLOcPALATALIZATION
cDASIA PNEUMATAcPSILI PNEUMATAcPOKRYTIEcHUNDRED THOUSANDS SIGNcMILLIONS SIGN
aCYRILLIC CAPITAL LETTER SHORT I WITH TAILbSMALL LETTER SHORT I WITH TAIL
bCAPITAL LETTER SEMISOFT SIGNbSMALL LETTER SEMISOFT SIGNbCAPITAL LETTER ER WITH TICK
bSMALL LETTER ER WITH TICKbCAPITAL LETTER GHE WITH UPTURNbSMALL LETTER GHE WITH UPTURN
bCAPITAL LETTER GHE WITH STROKEbSMALL LETTER GHE WITH STROKEbCAPITAL LETTER GHE WITH MIDDLE HOOK
bSMALL LETTER GHE WITH MIDDLE HOOKbCAPITAL LETTER ZHE WITH DESCENDER
bSMALL LETTER ZHE WITH DESCENDERbCAPITAL LETTER ZE WITH DESCENDERbSMALL LETTER ZE WITH DESCENDER
bCAPITAL LETTER KA WITH DESCENDERbSMALL LETTER KA WITH DESCENDER
bCAPITAL LETTER KA WITH VERTICAL STROKEbSMALL LETTER KA WITH VERTICAL STROKE
bCAPITAL LETTER KA WITH STROKEbSMALL LETTER KA WITH STROKEbCAPITAL LETTER BASHKIR KA
bSMALL LETTER BASHKIR KAbCAPITAL LETTER EN WITH DESCENDERbSMALL LETTER EN WITH DESCENDER
bCAPITAL LIGATURE EN GHEbSMALL LIGATURE EN GHEbCAPITAL LETTER PE WITH MIDDLE HOOK
bSMALL LETTER PE WITH MIDDLE HOOKbCAPITAL LETTER ABKHASIAN HAbSMALL LETTER ABKHASIAN HA
bCAPITAL LETTER ES WITH DESCENDERbSMALL LETTER ES WITH DESCENDERbCAPITAL LETTER TE WITH DESCENDER
bSMALL LETTER TE WITH DESCENDERbCAPITAL LETTER STRAIGHT UbSMALL LETTER STRAIGHT U
bCAPITAL LETTER STRAIGHT U WITH STROKEbSMALL LETTER STRAIGHT U WITH STROKE
bCAPITAL LETTER HA WITH DESCENDERbSMALL LETTER HA WITH DESCENDERbCAPITAL LIGATURE TE TSE
bSMALL LIGATURE TE TSEbCAPITAL LETTER CHE WITH DESCENDERbSMALL LETTER CHE WITH DESCENDER
bCAPITAL LETTER CHE WITH VERTICAL STROKEbSMALL LETTER CHE WITH VERTICAL STROKEbCAPITAL LETTER SHHA
bSMALL LETTER SHHAbCAPITAL LETTER ABKHASIAN CHEbSMALL LETTER ABKHASIAN CHE
bCAPITAL LETTER ABKHASIAN CHE WITH DESCENDERbSMALL LETTER ABKHASIAN CHE WITH DESCENDER
bLETTER PALOCHKAbCAPITAL LETTER ZHE WITH BREVEbSMALL LETTER ZHE WITH BREVE
bCAPITAL LETTER KA WITH HOOKbSMALL LETTER KA WITH HOOKbCAPITAL LETTER EL WITH TAIL
bSMALL LETTER EL WITH TAILbCAPITAL LETTER EN WITH HOOKbSMALL LETTER EN WITH HOOK
bCAPITAL LETTER EN WITH TAILbSMALL LETTER EN WITH TAILbCAPITAL LETTER KHAKASSIAN CHE
bSMALL LETTER KHAKASSIAN CHEbCAPITAL LETTER EM WITH TAILbSMALL LETTER EM WITH TAILdPALOCHKA
bCAPITAL LETTER A WITH BREVEbSMALL LETTER A WITH BREVEbCAPITAL LETTER A WITH DIAERESIS
bSMALL LETTER A WITH DIAERESISbCAPITAL LIGATURE A IEbSMALL LIGATURE A IE
bCAPITAL LETTER IE WITH BREVEbSMALL LETTER IE WITH BREVEbCAPITAL LETTER SCHWAbSMALL LETTER SCHWA
bCAPITAL LETTER SCHWA WITH DIAERESISbSMALL LETTER SCHWA WITH DIAERESIS
bCAPITAL LETTER ZHE WITH DIAERESISbSMALL LETTER ZHE WITH DIAERESIS
bCAPITAL LETTER ZE WITH DIAERESISbSMALL LETTER ZE WITH DIAERESISbCAPITAL LETTER ABKHASIAN DZE
bSMALL LETTER ABKHASIAN DZEbCAPITAL LETTER I WITH MACRONbSMALL LETTER I WITH MACRON
bCAPITAL LETTER I WITH DIAERESISbSMALL LETTER I WITH DIAERESISbCAPITAL LETTER O WITH DIAERESIS
bSMALL LETTER O WITH DIAERESISbCAPITAL LETTER BARRED ObSMALL LETTER BARRED O
bCAPITAL LETTER BARRED O WITH DIAERESISbSMALL LETTER BARRED O WITH DIAERESIS
bCAPITAL LETTER E WITH DIAERESISbSMALL LETTER E WITH DIAERESISbCAPITAL LETTER U WITH MACRON
bSMALL LETTER U WITH MACRONbCAPITAL LETTER U WITH DIAERESISbSMALL LETTER U WITH DIAERESIS
bCAPITAL LETTER U WITH DOUBLE ACUTEbSMALL LETTER U WITH DOUBLE ACUTE
bCAPITAL LETTER CHE WITH DIAERESISbSMALL LETTER CHE WITH DIAERESIS
bCAPITAL LETTER GHE WITH DESCENDERbSMALL LETTER GHE WITH DESCENDER
bCAPITAL LETTER YERU WITH DIAERESISbSMALL LETTER YERU WITH DIAERESIS
bCAPITAL LETTER GHE WITH STROKE AND HOOKbSMALL LETTER GHE WITH STROKE AND HOOK
bCAPITAL LETTER HA WITH HOOKbSMALL LETTER HA WITH HOOKbCAPITAL LETTER HA WITH STROKE
bSMALL LETTER HA WITH STROKEbCAPITAL LETTER KOMI DEbSMALL LETTER KOMI DEbCAPITAL LETTER KOMI DJE
bSMALL LETTER KOMI DJEbCAPITAL LETTER KOMI ZJEbSMALL LETTER KOMI ZJEbCAPITAL LETTER KOMI DZJE
bSMALL LETTER KOMI DZJEbCAPITAL LETTER KOMI LJEbSMALL LETTER KOMI LJEbCAPITAL LETTER KOMI NJE
bSMALL LETTER KOMI NJEbCAPITAL LETTER KOMI SJEbSMALL LETTER KOMI SJEbCAPITAL LETTER KOMI TJE
bSMALL LETTER KOMI TJEbCAPITAL LETTER REVERSED ZEbSMALL LETTER REVERSED ZE
bCAPITAL LETTER EL WITH HOOKbSMALL LETTER EL WITH HOOKbCAPITAL LETTER LHAbSMALL LETTER LHA
bCAPITAL LETTER RHAbSMALL LETTER RHAbCAPITAL LETTER YAEbSMALL LETTER YAEbCAPITAL LETTER QA
bSMALL LETTER QAbCAPITAL LETTER WEbSMALL LETTER WEbCAPITAL LETTER ALEUT KAbSMALL LETTER ALEUT KA
bCAPITAL LETTER EL WITH MIDDLE HOOKbSMALL LETTER EL WITH MIDDLE HOOK
bCAPITAL LETTER EN WITH MIDDLE HOOKbSMALL LETTER EN WITH MIDDLE HOOK
bCAPITAL LETTER PE WITH DESCENDERbSMALL LETTER PE WITH DESCENDER
bCAPITAL LETTER SHHA WITH DESCENDERbSMALL LETTER SHHA WITH DESCENDER
bCAPITAL LETTER EN WITH LEFT HOOKbSMALL LETTER EN WITH LEFT HOOKbCAPITAL LETTER DZZHE
bSMALL LETTER DZZHEbCAPITAL LETTER DCHEbSMALL LETTER DCHEbCAPITAL LETTER EL WITH DESCENDER
bSMALL LETTER EL WITH DESCENDER:531aARMENIAN CAPITAL LETTER AYBdBENdGIMdDAdECHdZAdEHdETdTOdZHEdINI
dLIWNdXEHdCAdKENdHOdJAdGHADdCHEHdMENdYIdNOWdSHAdVOdCHAdPEHdJHEHdRAdSEHdVEWdTIWNdREHdCOdYIWNdPIWR
dKEHdOHdFEH:559aARMENIAN MODIFIER LETTER LEFT HALF RINGbAPOSTROPHEbEMPHASIS MARKbEXCLAMATION MARK
bCOMMAbQUESTION MARKbABBREVIATION MARKbSMALL LETTER TURNED AYBdAYBdBENdGIMdDAdECHdZAdEHdETdTOdZHE
dINIdLIWNdXEHdCAdKENdHOdJAdGHADdCHEHdMENdYIdNOWdSHAdVOdCHAdPEHdJHEHdRAdSEHdVEWdTIWNdREHdCOdYIWN
dPIWRdKEHdOHdFEHcLIGATURE ECH YIWNcLETTER YI WITH STROKEbFULL STOPbHYPHEN:58D
aRIGHT-FACING ARMENIAN ETERNITY SIGNaLEFT-FACING ARMENIAN ETERNITY SIGNaARMENIAN DRAM SIGN:591
aHEBREW ACCENT ETNAHTAcSEGOLcSHALSHELETcZAQEF QATANdGADOLcTIPEHAcREVIAcZARQAcPASHTAcYETIVcTEVIR
cGERESHdMUQDAMcGERSHAYIMcQARNEY PARAcTELISHA GEDOLAcPAZERcATNAH HAFUKHcMUNAHcMAHAPAKHcMERKHA
dKEFULAcDARGAcQADMAcTELISHA QETANAcYERAH BEN YOMOcOLEcILUYcDEHIcZINORbMARK MASORA CIRCLE
bPOINT SHEVAcHATAF SEGOLdPATAHdQAMATScHIRIQcTSEREcSEGOLcPATAHcQAMATScHOLAMdHASER FOR VAVcQUBUTS
cDAGESH OR MAPIQcMETEGbPUNCTUATION MAQAFbPOINT RAFEbPUNCTUATION PASEQbPOINT SHIN DOTcSIN DOT
bPUNCTUATION SOF PASUQbMARK UPPER DOTcLOWER DOTbPUNCTUATION NUN HAFUKHAbPOINT QAMATS QATAN:5D0
aHEBREW LETTER ALEFcBETcGIMELcDALETcHEcVAVcZAYINcHETcTETcYODcFINAL KAFcKAFcLAMEDcFINAL MEMcMEM
cFINAL NUNcNUNcSAMEKHcAYINcFINAL PEcPEcFINAL TSADIcTSADIcQOFcRESHcSHINcTAV:5EFaHEBREW YOD TRIANGLE
bLIGATURE YIDDISH DOUBLE VAVdVAV YODdDOUBLE YODbPUNCTUATION GERESHcGERSHAYIM:600
aARABIC NUMBER SIGNbSIGN SANAHbFOOTNOTE MARKERbSIGN SAFHAcSAMVATbNUMBER MARK ABOVE
aARABIC-INDIC CUBE ROOTbFOURTH ROOTaARABIC RAYaARABIC-INDIC PER MILLE SIGNcTEN THOUSAND SIGN
aAFGHANI SIGNaARABIC COMMAbDATE SEPARATORbPOETIC VERSE SIGNbSIGN MISRA
cSALLALLAHOU ALAYHE WASSALLAMcALAYHE ASSALLAMcRAHMATULLAH ALAYHEcRADI ALLAHOU ANHUcTAKHALLUS
bSMALL HIGH TAHdLIGATURE ALEF WITH LAM WITH YEHdZAINcFATHAcDAMMAcKASRAbSEMICOLONbLETTER MARK
bEND OF TEXT MARKbTRIPLE DOT PUNCTUATION MARKbQUESTION MARKbLETTER KASHMIRI YEHcHAMZA
cALEF WITH MADDA ABOVEeHAMZA ABOVEcWAW WITH HAMZA ABOVEcALEF WITH HAMZA BELOWcYEH WITH HAMZA ABOVE
cALEFcBEHcTEH MARBUTAcTEHcTHEHcJEEMcHAHcKHAHcDALcTHALcREHcZAINcSEENcSHEENcSADcDADcTAHcZAHcAIN
cGHAINcKEHEH WITH TWO DOTS ABOVEeTHREE DOTS BELOWcFARSI YEH WITH INVERTED VfTWO DOTS ABOVE
fTHREE DOTS ABOVEbTATWEELbLETTER FEHcQAFcKAFcLAMcMEEMcNOONcHEHcWAWcALEF MAKSURAcYEHbFATHATAN
bDAMMATANbKASRATANbFATHAbDAMMAbKASRAbSHADDAbSUKUNbMADDAH ABOVEbHAMZA ABOVEcBELOWbSUBSCRIPT ALEF
bINVERTED DAMMAbMARK NOON GHUNNAbZWARAKAYbVOWEL SIGN SMALL V ABOVEdINVERTED SMALL V ABOVE
dDOT BELOWbREVERSED DAMMAbFATHA WITH TWO DOTSbWAVY HAMZA BELOWaARABIC-INDIC DIGIT ZEROcONEcTWO
cTHREEcFOURcFIVEcSIXcSEVENcEIGHTcNINEaARABIC PERCENT SIGNbDECIMAL SEPARATORbTHOUSANDS SEPARATOR
bFIVE POINTED STARbLETTER DOTLESS BEHdQAFcSUPERSCRIPT ALEFcALEF WASLAdWITH WAVY HAMZA ABOVEgBELOW
cHIGH HAMZAeALEFeWAWcU WITH HAMZA ABOVEcHIGH HAMZA YEHcTTEHcTTEHEHcBEEHcTEH WITH RING
eTHREE DOTS ABOVE DOWNWARDScPEHcTEHEHcBEHEHcHAH WITH HAMZA ABOVEeTWO DOTS VERTICAL ABOVEcNYEHcDYEH
cHAH WITH THREE DOTS ABOVEcTCHEHcTCHEHEHcDDALcDAL WITH RINGeDOT BELOWgAND SMALL TAHcDAHALcDDAHAL
cDULcDAL WITH THREE DOTS ABOVE DOWNWARDSeFOUR DOTS ABOVEcRREHcREH WITH SMALL VeRINGeDOT BELOW
eSMALL V BELOWeDOT BELOW AND DOT ABOVEeTWO DOTS ABOVEcJEHcREH WITH FOUR DOTS ABOVE
cSEEN WITH DOT BELOW AND DOT ABOVEeTHREE DOTS BELOWhAND THREE DOTS ABOVEcSAD WITH TWO DOTS BELOW
eTHREE DOTS ABOVEcTAH WITH THREE DOTS ABOVEcAIN WITH THREE DOTS ABOVEcDOTLESS FEH
cFEH WITH DOT MOVED BELOWfBELOWcVEHcFEH WITH THREE DOTS BELOWcPEHEHcQAF WITH DOT ABOVE
eTHREE DOTS ABOVEcKEHEHcSWASH KAFcKAF WITH RINGeDOT ABOVEcNGcKAF WITH THREE DOTS BELOWcGAF
dWITH RINGcNGOEHcGAF WITH TWO DOTS BELOWcGUEHcGAF WITH THREE DOTS ABOVEcLAM WITH SMALL VeDOT ABOVE
eTHREE DOTS ABOVEgBELOWcNOON WITH DOT BELOWdGHUNNAcRNOONcNOON WITH RINGeTHREE DOTS ABOVE
cHEH DOACHASHMEEcTCHEH WITH DOT ABOVEcHEH WITH YEH ABOVEdGOALeWITH HAMZA ABOVEcTEH MARBUTA GOAL
cWAW WITH RINGcKIRGHIZ OEcOEcUcYUcKIRGHIZ YUcWAW WITH TWO DOTS ABOVEcVEcFARSI YEHcYEH WITH TAIL
eSMALL VcWAW WITH DOT ABOVEcEcYEH WITH THREE DOTS BELOWdBARREEeWITH HAMZA ABOVEbFULL STOP
bLETTER AEbSMALL HIGH LIGATURE SAD WITH LAM WITH ALEF MAKSURAeQAF WITH LAM WITH ALEF MAKSURA
dMEEM INITIAL FORMdLAM ALEFdJEEMdTHREE DOTSdSEENbEND OF AYAHbSTART OF RUB EL HIZB
bSMALL HIGH ROUNDED ZEROdUPRIGHT RECTANGULAR ZEROdDOTLESS HEAD OF KHAHdMEEM ISOLATED FORMcLOW SEEN
cHIGH MADDAcWAWcYEHcHIGH YEHdNOONbPLACE OF SAJDAHbEMPTY CENTRE LOW STOPdHIGH STOP
bROUNDED HIGH STOP WITH FILLED CENTREbSMALL LOW MEEMbLETTER DAL WITH INVERTED V
cREH WITH INVERTED VaEXTENDED ARABIC-INDIC DIGIT ZEROdONEdTWOdTHREEdFOURdFIVEdSIXdSEVENdEIGHTdNINE
aARABIC LETTER SHEEN WITH DOT BELOWcDAD WITH DOT BELOWcGHAIN WITH DOT BELOWbSIGN SINDHI AMPERSAND
dPOSTPOSITION MENbLETTER HEH WITH INVERTED VaSYRIAC END OF PARAGRAPHbSUPRALINEAR FULL STOP
bSUBLINEAR FULL STOPbSUPRALINEAR COLONbSUBLINEAR COLONbHORIZONTAL COLONbCOLON SKEWED LEFTdRIGHT
bSUPRALINEAR COLON SKEWED LEFTbSUBLINEAR COLON SKEWED RIGHTbCONTRACTIONbHARKLEAN OBELUScMETOBELUS
cASTERISCUS:70FaSYRIAC ABBREVIATION MARKbLETTER ALAPHcSUPERSCRIPT ALAPHcBETHcGAMALdGARSHUNIcDALATH
cDOTLESS DALATH RISHcHEcWAWcZAINcHETHcTETHdGARSHUNIcYUDHdHEcKAPHcLAMADHcMIMcNUNcSEMKATH
cFINAL SEMKATHcEcPEcREVERSED PEcSADHEcQAPHcRISHcSHINcTAWcPERSIAN BHETHdGHAMALdDHALATHbPTHAHA ABOVE
cBELOWcDOTTEDbZQAPHA ABOVEcBELOWcDOTTEDbRBASA ABOVEcBELOWbDOTTED ZLAMA HORIZONTALdANGULAR
bHBASA ABOVEcBELOWbHBASA-ESASA DOTTEDbESASA ABOVEcBELOWbRWAHAbFEMININE DOTbQUSHSHAYAbRUKKAKHA
bTWO VERTICAL DOTS ABOVEeBELOWbTHREE DOTS ABOVEdBELOWbOBLIQUE LINE ABOVEdBELOWbMUSICbBARREKH:74D
aSYRIAC LETTER SOGDIAN ZHAINdKHAPHdFEaARABIC LETTER BEH WITH THREE DOTS HORIZONTALLY BELOW
eDOT BELOW AND THREE DOTS ABOVEeTHREE DOTS POINTING UPWARDS BELOWjAND TWO DOTS ABOVE
eTWO DOTS BELOW AND DOT ABOVEeINVERTED SMALL V BELOWeSMALL VcHAH WITH TWO DOTS ABOVE
eTHREE DOTS POINTING UPWARDS BELOWcDAL WITH TWO DOTS VERTICALLY BELOW AND SMALL TAH
eINVERTED SMALL V BELOWcREH WITH STROKEcSEEN WITH FOUR DOTS ABOVEcAIN WITH TWO DOTS ABOVE
eTHREE DOTS POINTING DOWNWARDS ABOVEeTWO DOTS VERTICALLY ABOVEcFEH WITH TWO DOTS BELOW
eTHREE DOTS POINTING UPWARDS BELOWcKEHEH WITH DOT ABOVEeTHREE DOTS ABOVEgPOINTING UPWARDS BELOW
cMEEM WITH DOT ABOVEfBELOWcNOON WITH TWO DOTS BELOWeSMALL TAHfVcLAM WITH BAR
cREH WITH TWO DOTS VERTICALLY ABOVEeHAMZA ABOVEcSEEN WITH TWO DOTS VERTICALLY ABOVE
cHAH WITH SMALL ARABIC LETTER TAH BELOWiAND TWO DOTS
cSEEN WITH SMALL ARABIC LETTER TAH AND TWO DOTScREH WITH SMALL ARABIC LETTER TAH AND TWO DOTS
cHAH WITH SMALL ARABIC LETTER TAH ABOVEcALEF WITH EXTENDED ARABIC-INDIC DIGIT TWO ABOVE
hTHREE ABOVEcFARSI YEH WITH EXTENDED ARABIC-INDIC DIGIT TWO ABOVEiTHREE ABOVEiFOUR BELOW
cWAW WITH EXTENDED ARABIC-INDIC DIGIT TWO ABOVEhTHREE ABOVE
cYEH BARREE WITH EXTENDED ARABIC-INDIC DIGIT TWO ABOVEiTHREE ABOVE
cHAH WITH EXTENDED ARABIC-INDIC DIGIT FOUR BELOWcSEEN WITH EXTENDED ARABIC-INDIC DIGIT FOUR ABOVE
eINVERTED VcKAF WITH TWO DOTS ABOVEaTHAANA LETTER HAAcSHAVIYANIcNOONUcRAAcBAAcLHAVIYANIcKAAFU
cALIFUcVAAVUcMEEMUcFAAFUcDHAALUcTHAAcLAAMUcGAAFUcGNAVIYANIcSEENUcDAVIYANIcZAVIYANIcTAVIYANIcYAA
cPAVIYANIcJAVIYANIcCHAVIYANIcTTAAcHHAAcKHAAcTHAALUcZAAcSHEENUcSAADHUcDAADHUcTOcZOcAINUcGHAINU
cQAAFUcWAAVUbABAFILIbAABAAFILIbIBIFILIbEEBEEFILIbUBUFILIbOOBOOFILIbEBEFILIbEYBEYFILIbOBOFILI
bOABOAFILIbSUKUNbLETTER NAA:7C0aNKO DIGIT ZEROcONEcTWOcTHREEcFOURcFIVEcSIXcSEVENcEIGHTcNINE
bLETTER AcEEcIcEcUcOOcOcDAGBASINNAcNcBAcPAcTAcJAcCHAcDAcRAcRRAcSAcGBAcFAcKAcLAcNA WOLOSOcMAcNYAcNA
cHAcWAcYAcNYA WOLOSOcJONA JAdCHAdRAbCOMBINING SHORT HIGH TONEdLOW TONEdRISING TONE
cLONG DESCENDING TONEdHIGH TONEdLOW TONEdRISING TONEcNASALIZATION MARKcDOUBLE DOT ABOVE
bHIGH TONE APOSTROPHEbLOW TONE APOSTROPHEbSYMBOL OO DENNENcGBAKURUNENbCOMMAbEXCLAMATION MARK
bLAJANYALAN:7FDaNKO DANTAYALANbDOROME SIGNbTAMAN SIGNaSAMARITAN LETTER ALAFcBITcGAMANcDALATcIYcBAA
cZENcITcTITcYUTcKAAFcLABATcMIMcNUNcSINGAATcINcFIcTSAADIYcQUFcRISHcSHANcTAAFbMARK INcIN-ALAF
cOCCLUSIONcDAGESHbMODIFIER LETTER EPENTHETIC YUTbMARK EPENTHETIC YUTbVOWEL SIGN LONG EdE
dOVERLONG AAdLONG AAdAAdOVERLONG AdLONG AdAbMODIFIER LETTER SHORT AbVOWEL SIGN SHORT AdLONG UdU
bMODIFIER LETTER IbVOWEL SIGN LONG IdIdOdSUKUNbMARK NEQUDAA:830aSAMARITAN PUNCTUATION NEQUDAA
cAFSAAQcANGEDcBAUcATMAAUcSHIYYAALAAbABBREVIATION MARKbPUNCTUATION MELODIC QITSAcZIQAAcQITSAcZAEF
cTURUcARKAANUcSOF MASHFAATcANNAAU:840aMANDAIC LETTER HALQAcABcAGcADcAHcUSHENNAcAZcITcATTcAKSAcAK
cALcAMcANcAScINcAPcASZcAQcARcASHcATcDUSHENNAcKADcAINbAFFRICATION MARKbVOCALIZATION MARK
bGEMINATION MARK:85EaMANDAIC PUNCTUATION:860aSYRIAC LETTER MALAYALAM NGAdJAdNYAdTTAdNNAdNNNAdBHA
dRAdLLAdLLLAdSSA:870aARABIC LETTER ALEF WITH ATTACHED FATHAfTOP RIGHT FATHAeRIGHT MIDDLE STROKE
eLEFT MIDDLE STROKEeATTACHED KASRAfBOTTOM RIGHT KASRAfROUND DOT ABOVEfRIGHT ROUND DOT
fLEFT ROUND DOTfROUND DOT BELOWeDOT ABOVEeATTACHED TOP RIGHT FATHA AND DOT ABOVE
eRIGHT MIDDLE STROKE AND DOT ABOVEeATTACHED BOTTOM RIGHT KASRA AND DOT ABOVE
fTOP RIGHT FATHA AND LEFT RINGeRIGHT MIDDLE STROKE AND LEFT RING
eATTACHED BOTTOM RIGHT KASRA AND LEFT RINGfRIGHT HAMZAfLEFT HAMZAbTATWEEL WITH OVERSTRUCK HAMZA
eWAWdTWO DOTS BELOWbLETTER THIN YEHbBASELINE ROUND DOTbRAISED ROUND DOT
bLETTER NOON WITH INVERTED SMALL VcHAH WITH INVERTED SMALL V BELOWcTAH WITH DOT BELOW
eTHREE DOTS BELOWcKEHEH WITH TWO DOTS VERTICALLY BELOWbVERTICAL TAIL:890aARABIC POUND MARK ABOVE
bPIASTRE MARK ABOVE:898aARABIC SMALL HIGH WORD AL-JUZcLOW WORD ISHMAAMeIMAALAeTASHEELbMADDA WAAJIB
bSUPERSCRIPT ALEF MOKHASSASbDOUBLED MADDAbHALF MADDA OVER MADDAbLETTER BEH WITH SMALL V BELOW
eHAMZA ABOVEcJEEM WITH TWO DOTS ABOVEcTAH WITH TWO DOTS ABOVE
cFEH WITH DOT BELOW AND THREE DOTS ABOVEcQAF WITH DOT BELOWcLAM WITH DOUBLE BAR
cMEEM WITH THREE DOTS ABOVEcYEH WITH TWO DOTS BELOW AND HAMZA ABOVEiDOT ABOVEcREH WITH LOOP
cWAW WITH DOT WITHINcROHINGYA YEHcLOW ALEFcDAL WITH THREE DOTS BELOWcSAD WITH THREE DOTS BELOW
cGAF WITH INVERTED STROKEcSTRAIGHT WAWcZAIN WITH INVERTED V ABOVEcAIN WITH THREE DOTS BELOW
cKAF WITH DOT BELOWcQAF WITH DOT BELOW AND NO DOTS ABOVEcBEH WITH SMALL MEEM ABOVE
cPEH WITH SMALL MEEM ABOVEcTEH WITH SMALL TEH ABOVEcREH WITH SMALL NOON ABOVE
cYEH WITH TWO DOTS BELOW AND SMALL NOON ABOVEcAFRICAN FEHdQAFdNOONcPEH WITH SMALL V
cTEH WITH SMALL VcTTEH WITH SMALL VcTCHEH WITH SMALL VcKEHEH WITH SMALL V
cGHAIN WITH THREE DOTS ABOVEcAFRICAN QAF WITH THREE DOTS ABOVEcJEEM WITH THREE DOTS ABOVEgBELOW
cLAM WITH SMALL ARABIC LETTER TAH ABOVEcGRAFbSMALL FARSI YEHcHIGH FARSI YEH
dYEH BARREE WITH TWO DOTS BELOWdWORD SAHdZAHbLARGE ROUND DOT ABOVEeBELOWbSUKUN BELOW
bLARGE CIRCLE BELOWcROUND DOT INSIDE CIRCLE BELOWbSMALL LOW WAWcHIGH WORD AR-RUBdSADdAINdQAF
dNOON WITH KASRAcLOW NOON WITH KASRAcHIGH WORD ATH-THALATHAeAS-SAJDAeAN-NISFeSAKTAeQIFeWAQFA
dFOOTNOTE MARKERdSIGN SAFHAbDISPUTED END OF AYAHbTURNED DAMMA BELOWbCURLY FATHAcDAMMAcKASRA
cFATHATANcDAMMATANcKASRATANbTONE ONE DOT ABOVEcTWO DOTS ABOVEcLOOP ABOVEcONE DOT BELOW
cTWO DOTS BELOWcLOOP BELOWbOPEN FATHATANcDAMMATANcKASRATANbSMALL HIGH WAWbFATHA WITH RING
dDOT ABOVEbKASRA WITH DOT BELOWbLEFT ARROWHEAD ABOVEbRIGHT ARROWHEAD ABOVEbLEFT ARROWHEAD BELOW
bRIGHT ARROWHEAD BELOWbDOUBLE RIGHT ARROWHEAD ABOVEfWITH DOTbRIGHT ARROWHEAD ABOVE WITH DOT
bDAMMA WITH DOTbMARK SIDEWAYS NOON GHUNNA"

end TicketMigration.CharacterName
