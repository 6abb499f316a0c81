/-!
# Names of characters: signs

Boxes, shapes, signs of all kinds and further operators.

## Main definitions

* `signs` is the table.
-/

namespace TicketMigration.CharacterName

/-- The table.  Behind a colon stands the code of a character.  Each name begins with a small
letter, which says how many words it has in common with the name before, and is the name of the
next code. -/
def signs : String :=
  ":2500aBOX DRAWINGS LIGHT HORIZONTALcHEAVY HORIZONTALcLIGHT VERTICALcHEAVY VERTICAL
cLIGHT TRIPLE DASH HORIZONTALcHEAVY TRIPLE DASH HORIZONTALcLIGHT TRIPLE DASH VERTICAL
cHEAVY TRIPLE DASH VERTICALcLIGHT QUADRUPLE DASH HORIZONTALcHEAVY QUADRUPLE DASH HORIZONTAL
cLIGHT QUADRUPLE DASH VERTICALcHEAVY QUADRUPLE DASH VERTICALcLIGHT DOWN AND RIGHT
cDOWN LIGHT AND RIGHT HEAVYdHEAVY AND RIGHT LIGHTcHEAVY DOWN AND RIGHTcLIGHT DOWN AND LEFT
cDOWN LIGHT AND LEFT HEAVYdHEAVY AND LEFT LIGHTcHEAVY DOWN AND LEFTcLIGHT UP AND RIGHT
cUP LIGHT AND RIGHT HEAVYdHEAVY AND RIGHT LIGHTcHEAVY UP AND RIGHTcLIGHT UP AND LEFT
cUP LIGHT AND LEFT HEAVYdHEAVY AND LEFT LIGHTcHEAVY UP AND LEFTcLIGHT VERTICAL AND RIGHT
cVERTICAL LIGHT AND RIGHT HEAVYcUP HEAVY AND RIGHT DOWN LIGHTcDOWN HEAVY AND RIGHT UP LIGHT
cVERTICAL HEAVY AND RIGHT LIGHTcDOWN LIGHT AND RIGHT UP HEAVYcUP LIGHT AND RIGHT DOWN HEAVY
cHEAVY VERTICAL AND RIGHTcLIGHT VERTICAL AND LEFTcVERTICAL LIGHT AND LEFT HEAVY
cUP HEAVY AND LEFT DOWN LIGHTcDOWN HEAVY AND LEFT UP LIGHTcVERTICAL HEAVY AND LEFT LIGHT
cDOWN LIGHT AND LEFT UP HEAVYcUP LIGHT AND LEFT DOWN HEAVYcHEAVY VERTICAL AND LEFT
cLIGHT DOWN AND HORIZONTALcLEFT HEAVY AND RIGHT DOWN LIGHTcRIGHT HEAVY AND LEFT DOWN LIGHT
cDOWN LIGHT AND HORIZONTAL HEAVYdHEAVY AND HORIZONTAL LIGHTcRIGHT LIGHT AND LEFT DOWN HEAVY
cLEFT LIGHT AND RIGHT DOWN HEAVYcHEAVY DOWN AND HORIZONTALcLIGHT UP AND HORIZONTAL
cLEFT HEAVY AND RIGHT UP LIGHTcRIGHT HEAVY AND LEFT UP LIGHTcUP LIGHT AND HORIZONTAL HEAVY
dHEAVY AND HORIZONTAL LIGHTcRIGHT LIGHT AND LEFT UP HEAVYcLEFT LIGHT AND RIGHT UP HEAVY
cHEAVY UP AND HORIZONTALcLIGHT VERTICAL AND HORIZONTALcLEFT HEAVY AND RIGHT VERTICAL LIGHT
cRIGHT HEAVY AND LEFT VERTICAL LIGHTcVERTICAL LIGHT AND HORIZONTAL HEAVY
cUP HEAVY AND DOWN HORIZONTAL LIGHTcDOWN HEAVY AND UP HORIZONTAL LIGHT
cVERTICAL HEAVY AND HORIZONTAL LIGHTcLEFT UP HEAVY AND RIGHT DOWN LIGHT
cRIGHT UP HEAVY AND LEFT DOWN LIGHTcLEFT DOWN HEAVY AND RIGHT UP LIGHT
cRIGHT DOWN HEAVY AND LEFT UP LIGHTcDOWN LIGHT AND UP HORIZONTAL HEAVY
cUP LIGHT AND DOWN HORIZONTAL HEAVYcRIGHT LIGHT AND LEFT VERTICAL HEAVY
cLEFT LIGHT AND RIGHT VERTICAL HEAVYcHEAVY VERTICAL AND HORIZONTALcLIGHT DOUBLE DASH HORIZONTAL
cHEAVY DOUBLE DASH HORIZONTALcLIGHT DOUBLE DASH VERTICALcHEAVY DOUBLE DASH VERTICAL
cDOUBLE HORIZONTALdVERTICALcDOWN SINGLE AND RIGHT DOUBLEdDOUBLE AND RIGHT SINGLE
cDOUBLE DOWN AND RIGHTcDOWN SINGLE AND LEFT DOUBLEdDOUBLE AND LEFT SINGLEcDOUBLE DOWN AND LEFT
cUP SINGLE AND RIGHT DOUBLEdDOUBLE AND RIGHT SINGLEcDOUBLE UP AND RIGHTcUP SINGLE AND LEFT DOUBLE
dDOUBLE AND LEFT SINGLEcDOUBLE UP AND LEFTcVERTICAL SINGLE AND RIGHT DOUBLE
dDOUBLE AND RIGHT SINGLEcDOUBLE VERTICAL AND RIGHTcVERTICAL SINGLE AND LEFT DOUBLE
dDOUBLE AND LEFT SINGLEcDOUBLE VERTICAL AND LEFTcDOWN SINGLE AND HORIZONTAL DOUBLE
dDOUBLE AND HORIZONTAL SINGLEcDOUBLE DOWN AND HORIZONTALcUP SINGLE AND HORIZONTAL DOUBLE
dDOUBLE AND HORIZONTAL SINGLEcDOUBLE UP AND HORIZONTALcVERTICAL SINGLE AND HORIZONTAL DOUBLE
dDOUBLE AND HORIZONTAL SINGLEcDOUBLE VERTICAL AND HORIZONTALcLIGHT ARC DOWN AND RIGHTgLEFT
eUP AND LEFTgRIGHTdDIAGONAL UPPER RIGHT TO LOWER LEFTfLEFT TO LOWER RIGHTeCROSSdLEFTdUPdRIGHTdDOWN
cHEAVY LEFTdUPdRIGHTdDOWNcLIGHT LEFT AND HEAVY RIGHTdUP AND HEAVY DOWNcHEAVY LEFT AND LIGHT RIGHT
dUP AND LIGHT DOWNaUPPER HALF BLOCKaLOWER ONE EIGHTH BLOCKcQUARTER BLOCKbTHREE EIGHTHS BLOCK
bHALF BLOCKbFIVE EIGHTHS BLOCKbTHREE QUARTERS BLOCKbSEVEN EIGHTHS BLOCKaFULL BLOCK
aLEFT SEVEN EIGHTHS BLOCKbTHREE QUARTERS BLOCKbFIVE EIGHTHS BLOCKbHALF BLOCKbTHREE EIGHTHS BLOCK
bONE QUARTER BLOCKcEIGHTH BLOCKaRIGHT HALF BLOCKaLIGHT SHADEaMEDIUM SHADEaDARK SHADE
aUPPER ONE EIGHTH BLOCKaRIGHT ONE EIGHTH BLOCKaQUADRANT LOWER LEFTcRIGHTbUPPER LEFT
dAND LOWER LEFT AND LOWER RIGHTfRIGHTeUPPER RIGHT AND LOWER LEFTiRIGHTcRIGHTdAND LOWER LEFT
gAND LOWER RIGHTaBLACK SQUAREaWHITE SQUAREcWITH ROUNDED CORNERScCONTAINING BLACK SMALL SQUARE
aSQUARE WITH HORIZONTAL FILLcVERTICAL FILLcORTHOGONAL CROSSHATCH FILL
cUPPER LEFT TO LOWER RIGHT FILLdRIGHT TO LOWER LEFT FILLcDIAGONAL CROSSHATCH FILL
aBLACK SMALL SQUAREaWHITE SMALL SQUAREaBLACK RECTANGLEaWHITE RECTANGLEaBLACK VERTICAL RECTANGLE
aWHITE VERTICAL RECTANGLEaBLACK PARALLELOGRAMaWHITE PARALLELOGRAMaBLACK UP-POINTING TRIANGLE
aWHITE UP-POINTING TRIANGLEaBLACK UP-POINTING SMALL TRIANGLEaWHITE UP-POINTING SMALL TRIANGLE
aBLACK RIGHT-POINTING TRIANGLEaWHITE RIGHT-POINTING TRIANGLEaBLACK RIGHT-POINTING SMALL TRIANGLE
aWHITE RIGHT-POINTING SMALL TRIANGLEaBLACK RIGHT-POINTING POINTERaWHITE RIGHT-POINTING POINTER
aBLACK DOWN-POINTING TRIANGLEaWHITE DOWN-POINTING TRIANGLEaBLACK DOWN-POINTING SMALL TRIANGLE
aWHITE DOWN-POINTING SMALL TRIANGLEaBLACK LEFT-POINTING TRIANGLEaWHITE LEFT-POINTING TRIANGLE
aBLACK LEFT-POINTING SMALL TRIANGLEaWHITE LEFT-POINTING SMALL TRIANGLEaBLACK LEFT-POINTING POINTER
aWHITE LEFT-POINTING POINTERaBLACK DIAMONDaWHITE DIAMONDcCONTAINING BLACK SMALL DIAMONDaFISHEYE
aLOZENGEaWHITE CIRCLEaDOTTED CIRCLEaCIRCLE WITH VERTICAL FILLaBULLSEYEaBLACK CIRCLE
aCIRCLE WITH LEFT HALF BLACKcRIGHT HALF BLACKcLOWER HALF BLACKcUPPER HALF BLACK
dRIGHT QUADRANT BLACKcALL BUT UPPER LEFT QUADRANT BLACKaLEFT HALF BLACK CIRCLE
aRIGHT HALF BLACK CIRCLEaINVERSE BULLETbWHITE CIRCLEaUPPER HALF INVERSE WHITE CIRCLE
aLOWER HALF INVERSE WHITE CIRCLEaUPPER LEFT QUADRANT CIRCULAR ARCbRIGHT QUADRANT CIRCULAR ARC
aLOWER RIGHT QUADRANT CIRCULAR ARCbLEFT QUADRANT CIRCULAR ARCaUPPER HALF CIRCLEaLOWER HALF CIRCLE
aBLACK LOWER RIGHT TRIANGLEcLEFT TRIANGLEbUPPER LEFT TRIANGLEcRIGHT TRIANGLEaWHITE BULLET
aSQUARE WITH LEFT HALF BLACKcRIGHT HALF BLACKcUPPER LEFT DIAGONAL HALF BLACK
cLOWER RIGHT DIAGONAL HALF BLACKaWHITE SQUARE WITH VERTICAL BISECTING LINE
bUP-POINTING TRIANGLE WITH DOTaUP-POINTING TRIANGLE WITH LEFT HALF BLACKdRIGHT HALF BLACK
aLARGE CIRCLEaWHITE SQUARE WITH UPPER LEFT QUADRANTdLOWER LEFT QUADRANTeRIGHT QUADRANT
dUPPER RIGHT QUADRANTbCIRCLE WITH UPPER LEFT QUADRANTdLOWER LEFT QUADRANTeRIGHT QUADRANT
dUPPER RIGHT QUADRANTaUPPER LEFT TRIANGLEbRIGHT TRIANGLEaLOWER LEFT TRIANGLEaWHITE MEDIUM SQUARE
aBLACK MEDIUM SQUAREaWHITE MEDIUM SMALL SQUAREaBLACK MEDIUM SMALL SQUAREaLOWER RIGHT TRIANGLE
aBLACK SUN WITH RAYSaCLOUDaUMBRELLAaSNOWMANaCOMETaBLACK STARaWHITE STARaLIGHTNINGaTHUNDERSTORMaSUN
aASCENDING NODEaDESCENDING NODEaCONJUNCTIONaOPPOSITIONaBLACK TELEPHONEaWHITE TELEPHONEaBALLOT BOX
cWITH CHECKdXaSALTIREaUMBRELLA WITH RAIN DROPSaHOT BEVERAGEaWHITE SHOGI PIECEaBLACK SHOGI PIECE
aSHAMROCKaREVERSED ROTATED FLORAL HEART BULLETaBLACK LEFT POINTING INDEXbRIGHT POINTING INDEX
aWHITE LEFT POINTING INDEXbUP POINTING INDEXbRIGHT POINTING INDEXbDOWN POINTING INDEX
aSKULL AND CROSSBONESaCAUTION SIGNaRADIOACTIVE SIGNaBIOHAZARD SIGNaCADUCEUSaANKHaORTHODOX CROSS
aCHI RHOaCROSS OF LORRAINEcJERUSALEMaSTAR AND CRESCENTaFARSI SYMBOLaADI SHAKTIaHAMMER AND SICKLE
aPEACE SYMBOLaYIN YANGaTRIGRAM FOR HEAVENcLAKEcFIREcTHUNDERcWINDcWATERcMOUNTAINcEARTH
aWHEEL OF DHARMAaWHITE FROWNING FACEbSMILING FACEaBLACK SMILING FACEaWHITE SUN WITH RAYS
aFIRST QUARTER MOONaLAST QUARTER MOONaMERCURYaFEMALE SIGNaEARTHaMALE SIGNaJUPITERaSATURNaURANUS
aNEPTUNEaPLUTOaARIESaTAURUSaGEMINIaCANCERaLEOaVIRGOaLIBRAaSCORPIUSaSAGITTARIUSaCAPRICORNaAQUARIUS
aPISCESaWHITE CHESS KINGcQUEENcROOKcBISHOPcKNIGHTcPAWNaBLACK CHESS KINGcQUEENcROOKcBISHOPcKNIGHT
cPAWNbSPADE SUITaWHITE HEART SUITbDIAMOND SUITaBLACK CLUB SUITaWHITE SPADE SUITaBLACK HEART SUIT
bDIAMOND SUITaWHITE CLUB SUITaHOT SPRINGSaQUARTER NOTEaEIGHTH NOTEaBEAMED EIGHTH NOTES
bSIXTEENTH NOTESaMUSIC FLAT SIGNbNATURAL SIGNbSHARP SIGNaWEST SYRIAC CROSSaEAST SYRIAC CROSS
aUNIVERSAL RECYCLING SYMBOLaRECYCLING SYMBOL FOR TYPE-1 PLASTICSdTYPE-2 PLASTICSdTYPE-3 PLASTICS
dTYPE-4 PLASTICSdTYPE-5 PLASTICSdTYPE-6 PLASTICSdTYPE-7 PLASTICSdGENERIC MATERIALS
aBLACK UNIVERSAL RECYCLING SYMBOLaRECYCLED PAPER SYMBOLaPARTIALLY-RECYCLED PAPER SYMBOL
aPERMANENT PAPER SIGNaWHEELCHAIR SYMBOLaDIE FACE-1bFACE-2bFACE-3bFACE-4bFACE-5bFACE-6
aWHITE CIRCLE WITH DOT RIGHTdTWO DOTSaBLACK CIRCLE WITH WHITE DOT RIGHTdTWO WHITE DOTS
aMONOGRAM FOR YANGcYINaDIGRAM FOR GREATER YANGcLESSER YINdYANGcGREATER YINaWHITE FLAGaBLACK FLAG
aHAMMER AND PICKaANCHORaCROSSED SWORDSaSTAFF OF AESCULAPIUSaSCALESaALEMBICaFLOWERaGEAR
aSTAFF OF HERMESaATOM SYMBOLaFLEUR-DE-LISaOUTLINED WHITE STARaTHREE LINES CONVERGING RIGHTdLEFT
aWARNING SIGNaHIGH VOLTAGE SIGNaDOUBLED FEMALE SIGNbMALE SIGNaINTERLOCKED FEMALE AND MALE SIGN
aMALE AND FEMALE SIGNbWITH STROKE SIGNdAND MALE AND FEMALE SIGNaVERTICAL MALE WITH STROKE SIGN
aHORIZONTAL MALE WITH STROKE SIGNaMEDIUM WHITE CIRCLEbBLACK CIRCLEbSMALL WHITE CIRCLE
aMARRIAGE SYMBOLaDIVORCE SYMBOLaUNMARRIED PARTNERSHIP SYMBOLaCOFFINaFUNERAL URNaNEUTERaCERES
aPALLASaJUNOaVESTAaCHIRONaBLACK MOON LILITHaSEXTILEaSEMISEXTILEaQUINCUNXaSESQUIQUADRATE
aSOCCER BALLaBASEBALLaSQUARED KEYaWHITE DRAUGHTS MANcKINGaBLACK DRAUGHTS MANcKING
aSNOWMAN WITHOUT SNOWaSUN BEHIND CLOUDaRAINaBLACK SNOWMANaTHUNDER CLOUD AND RAIN
aTURNED WHITE SHOGI PIECEbBLACK SHOGI PIECEaWHITE DIAMOND IN SQUAREaCROSSING LANESaDISABLED CAR
aOPHIUCHUSaPICKaCAR SLIDINGaHELMET WITH WHITE CROSSaCIRCLED CROSSING LANESaCHAINSaNO ENTRY
aALTERNATE ONE-WAY LEFT WAY TRAFFICaBLACK TWO-WAY LEFT WAY TRAFFICaWHITE TWO-WAY LEFT WAY TRAFFIC
aBLACK LEFT LANE MERGEaWHITE LEFT LANE MERGEaDRIVE SLOW SIGNaHEAVY WHITE DOWN-POINTING TRIANGLE
aLEFT CLOSED ENTRYaSQUARED SALTIREaFALLING DIAGONAL IN WHITE CIRCLE IN BLACK SQUAREaBLACK TRUCK
aRESTRICTED LEFT ENTRY-1cENTRY-2aASTRONOMICAL SYMBOL FOR URANUS
aHEAVY CIRCLE WITH STROKE AND TWO DOTS ABOVEaPENTAGRAMaRIGHT-HANDED INTERLACED PENTAGRAM
aLEFT-HANDED INTERLACED PENTAGRAMaINVERTED PENTAGRAMaBLACK CROSS ON SHIELDaSHINTO SHRINEaCHURCH
aCASTLEaHISTORIC SITEaGEAR WITHOUT HUBbWITH HANDLESaMAP SYMBOL FOR LIGHTHOUSEaMOUNTAIN
aUMBRELLA ON GROUNDaFOUNTAINaFLAG IN HOLEaFERRYaSAILBOATaSQUARE FOUR CORNERSaSKIERaICE SKATE
aPERSON WITH BALLaTENTaJAPANESE BANK SYMBOLaHEADSTONE GRAVEYARD SYMBOLaFUEL PUMP
aCUP ON BLACK SQUAREaWHITE FLAG WITH HORIZONTAL MIDDLE BLACK STRIPEaBLACK SAFETY SCISSORS
aUPPER BLADE SCISSORSaBLACK SCISSORSaLOWER BLADE SCISSORSaWHITE SCISSORSbHEAVY CHECK MARK
aTELEPHONE LOCATION SIGNaTAPE DRIVEaAIRPLANEaENVELOPEaRAISED FISTbHANDaVICTORY HANDaWRITING HAND
aLOWER RIGHT PENCILaPENCILaUPPER RIGHT PENCILaWHITE NIBaBLACK NIBaCHECK MARKaHEAVY CHECK MARK
aMULTIPLICATION XaHEAVY MULTIPLICATION XaBALLOT XaHEAVY BALLOT XaOUTLINED GREEK CROSS
aHEAVY GREEK CROSSaOPEN CENTRE CROSSaHEAVY OPEN CENTRE CROSSaLATIN CROSS
aSHADOWED WHITE LATIN CROSSaOUTLINED LATIN CROSSaMALTESE CROSSaSTAR OF DAVID
aFOUR TEARDROP-SPOKED ASTERISKbBALLOON-SPOKED ASTERISKaHEAVY FOUR BALLOON-SPOKED ASTERISK
aFOUR CLUB-SPOKED ASTERISKaBLACK FOUR POINTED STARaWHITE FOUR POINTED STARaSPARKLES
aSTRESS OUTLINED WHITE STARaCIRCLED WHITE STARaOPEN CENTRE BLACK STARaBLACK CENTRE WHITE STAR
aOUTLINED BLACK STARaHEAVY OUTLINED BLACK STARaPINWHEEL STARaSHADOWED WHITE STARaHEAVY ASTERISK
aOPEN CENTRE ASTERISKaEIGHT SPOKED ASTERISKbPOINTED BLACK STARcPINWHEEL STAR
aSIX POINTED BLACK STARaEIGHT POINTED RECTILINEAR BLACK STAR
aHEAVY EIGHT POINTED RECTILINEAR BLACK STARaTWELVE POINTED BLACK STARaSIXTEEN POINTED ASTERISK
aTEARDROP-SPOKED ASTERISKaOPEN CENTRE TEARDROP-SPOKED ASTERISKaHEAVY TEARDROP-SPOKED ASTERISK
aSIX PETALLED BLACK AND WHITE FLORETTEaBLACK FLORETTEaWHITE FLORETTE
aEIGHT PETALLED OUTLINED BLACK FLORETTEaCIRCLED OPEN CENTRE EIGHT POINTED STAR
aHEAVY TEARDROP-SPOKED PINWHEEL ASTERISKaSNOWFLAKEaTIGHT TRIFOLIATE SNOWFLAKE
aHEAVY CHEVRON SNOWFLAKEaSPARKLEaHEAVY SPARKLEaBALLOON-SPOKED ASTERISK
aEIGHT TEARDROP-SPOKED PROPELLER ASTERISKaHEAVY EIGHT TEARDROP-SPOKED PROPELLER ASTERISK
aCROSS MARKaSHADOWED WHITE CIRCLEaNEGATIVE SQUARED CROSS MARK
aLOWER RIGHT DROP-SHADOWED WHITE SQUAREaUPPER RIGHT DROP-SHADOWED WHITE SQUARE
aLOWER RIGHT SHADOWED WHITE SQUAREaUPPER RIGHT SHADOWED WHITE SQUAREaBLACK QUESTION MARK ORNAMENT
aWHITE QUESTION MARK ORNAMENTbEXCLAMATION MARK ORNAMENTaBLACK DIAMOND MINUS WHITE X
aHEAVY EXCLAMATION MARK SYMBOLaLIGHT VERTICAL BARaMEDIUM VERTICAL BARaHEAVY VERTICAL BAR
bSINGLE TURNED COMMA QUOTATION MARK ORNAMENTcCOMMA QUOTATION MARK ORNAMENT
bDOUBLE TURNED COMMA QUOTATION MARK ORNAMENTcCOMMA QUOTATION MARK ORNAMENT
bLOW SINGLE COMMA QUOTATION MARK ORNAMENTcDOUBLE COMMA QUOTATION MARK ORNAMENT
aCURVED STEM PARAGRAPH SIGN ORNAMENTaHEAVY EXCLAMATION MARK ORNAMENT
bHEART EXCLAMATION MARK ORNAMENTbBLACK HEARTaROTATED HEAVY BLACK HEART BULLETaFLORAL HEART
aROTATED FLORAL HEART BULLETaMEDIUM LEFT PARENTHESIS ORNAMENTbRIGHT PARENTHESIS ORNAMENT
bFLATTENED LEFT PARENTHESIS ORNAMENTcRIGHT PARENTHESIS ORNAMENT
bLEFT-POINTING ANGLE BRACKET ORNAMENTbRIGHT-POINTING ANGLE BRACKET ORNAMENT
aHEAVY LEFT-POINTING ANGLE QUOTATION MARK ORNAMENTbRIGHT-POINTING ANGLE QUOTATION MARK ORNAMENT
bLEFT-POINTING ANGLE BRACKET ORNAMENTbRIGHT-POINTING ANGLE BRACKET ORNAMENT
aLIGHT LEFT TORTOISE SHELL BRACKET ORNAMENTbRIGHT TORTOISE SHELL BRACKET ORNAMENT
aMEDIUM LEFT CURLY BRACKET ORNAMENTbRIGHT CURLY BRACKET ORNAMENT
aDINGBAT NEGATIVE CIRCLED DIGIT ONEeTWOeTHREEeFOUReFIVEeSIXeSEVENeEIGHTeNINEdNUMBER TEN
bCIRCLED SANS-SERIF DIGIT ONEeTWOeTHREEeFOUReFIVEeSIXeSEVENeEIGHTeNINEdNUMBER TEN
bNEGATIVE CIRCLED SANS-SERIF DIGIT ONEfTWOfTHREEfFOURfFIVEfSIXfSEVENfEIGHTfNINEeNUMBER TEN
aHEAVY WIDE-HEADED RIGHTWARDS ARROWbPLUS SIGNbMINUS SIGNbDIVISION SIGNbSOUTH EAST ARROW
bRIGHTWARDS ARROWbNORTH EAST ARROWaDRAFTING POINT RIGHTWARDS ARROW
aHEAVY ROUND-TIPPED RIGHTWARDS ARROWaTRIANGLE-HEADED RIGHTWARDS ARROW
aHEAVY TRIANGLE-HEADED RIGHTWARDS ARROWaDASHED TRIANGLE-HEADED RIGHTWARDS ARROW
aHEAVY DASHED TRIANGLE-HEADED RIGHTWARDS ARROWaBLACK RIGHTWARDS ARROW
aTHREE-D TOP-LIGHTED RIGHTWARDS ARROWHEADbBOTTOM-LIGHTED RIGHTWARDS ARROWHEAD
aBLACK RIGHTWARDS ARROWHEADaHEAVY BLACK CURVED DOWNWARDS AND RIGHTWARDS ARROW
dUPWARDS AND RIGHTWARDS ARROWaSQUAT BLACK RIGHTWARDS ARROW
aHEAVY CONCAVE-POINTED BLACK RIGHTWARDS ARROWaRIGHT-SHADED WHITE RIGHTWARDS ARROW
aLEFT-SHADED WHITE RIGHTWARDS ARROWaBACK-TILTED SHADOWED WHITE RIGHTWARDS ARROW
aFRONT-TILTED SHADOWED WHITE RIGHTWARDS ARROWaHEAVY LOWER RIGHT-SHADOWED WHITE RIGHTWARDS ARROW
bUPPER RIGHT-SHADOWED WHITE RIGHTWARDS ARROWaNOTCHED LOWER RIGHT-SHADOWED WHITE RIGHTWARDS ARROW
aCURLY LOOPaNOTCHED UPPER RIGHT-SHADOWED WHITE RIGHTWARDS ARROW
aCIRCLED HEAVY WHITE RIGHTWARDS ARROWaWHITE-FEATHERED RIGHTWARDS ARROW
aBLACK-FEATHERED SOUTH EAST ARROWbRIGHTWARDS ARROWbNORTH EAST ARROW
aHEAVY BLACK-FEATHERED SOUTH EAST ARROWcRIGHTWARDS ARROWcNORTH EAST ARROW
aTEARDROP-BARBED RIGHTWARDS ARROWaHEAVY TEARDROP-SHANKED RIGHTWARDS ARROW
aWEDGE-TAILED RIGHTWARDS ARROWaHEAVY WEDGE-TAILED RIGHTWARDS ARROWaOPEN-OUTLINED RIGHTWARDS ARROW
aDOUBLE CURLY LOOPaTHREE DIMENSIONAL ANGLEaWHITE TRIANGLE CONTAINING SMALL WHITE TRIANGLE
aPERPENDICULARaOPEN SUBSETbSUPERSETaLEFT S-SHAPED BAG DELIMITERaRIGHT S-SHAPED BAG DELIMITER
aOR WITH DOT INSIDEaREVERSE SOLIDUS PRECEDING SUBSETaSUPERSET PRECEDING SOLIDUS
aVERTICAL BAR WITH HORIZONTAL STROKEaMATHEMATICAL RISING DIAGONALaLONG DIVISION
aMATHEMATICAL FALLING DIAGONALaSQUARED LOGICAL ANDcORaWHITE DIAMOND WITH CENTRED DOTaAND WITH DOT
aELEMENT OF OPENING UPWARDSaLOWER RIGHT CORNER WITH DOTaUPPER LEFT CORNER WITH DOTaLEFT OUTER JOIN
aRIGHT OUTER JOINaFULL OUTER JOINaLARGE UP TACKbDOWN TACKaLEFT AND RIGHT DOUBLE TURNSTILEdTACK
bMULTIMAPaLONG RIGHT TACKbLEFT TACKaUP TACK WITH CIRCLE ABOVEaLOZENGE DIVIDED BY HORIZONTAL RULE
aWHITE CONCAVE-SIDED DIAMONDdWITH LEFTWARDS TICKeRIGHTWARDS TICKbSQUARE WITH LEFTWARDS TICK
dRIGHTWARDS TICKaMATHEMATICAL LEFT WHITE SQUARE BRACKETbRIGHT WHITE SQUARE BRACKET
bLEFT ANGLE BRACKETbRIGHT ANGLE BRACKETbLEFT DOUBLE ANGLE BRACKETbRIGHT DOUBLE ANGLE BRACKET
bLEFT WHITE TORTOISE SHELL BRACKETbRIGHT WHITE TORTOISE SHELL BRACKETbLEFT FLATTENED PARENTHESIS
bRIGHT FLATTENED PARENTHESISaUPWARDS QUADRUPLE ARROWaDOWNWARDS QUADRUPLE ARROW
aANTICLOCKWISE GAPPED CIRCLE ARROWaCLOCKWISE GAPPED CIRCLE ARROWaRIGHT ARROW WITH CIRCLED PLUS
aLONG LEFTWARDS ARROWbRIGHTWARDS ARROWbLEFT RIGHT ARROWbLEFTWARDS DOUBLE ARROW
bRIGHTWARDS DOUBLE ARROWbLEFT RIGHT DOUBLE ARROWbLEFTWARDS ARROW FROM BAR
bRIGHTWARDS ARROW FROM BARbLEFTWARDS DOUBLE ARROW FROM BARbRIGHTWARDS DOUBLE ARROW FROM BAR
cSQUIGGLE ARROWaBRAILLE PATTERN BLANKcDOTS-1cDOTS-2cDOTS-12cDOTS-3cDOTS-13cDOTS-23cDOTS-123cDOTS-4
cDOTS-14cDOTS-24cDOTS-124cDOTS-34cDOTS-134cDOTS-234cDOTS-1234cDOTS-5cDOTS-15cDOTS-25cDOTS-125
cDOTS-35cDOTS-135cDOTS-235cDOTS-1235cDOTS-45cDOTS-145cDOTS-245cDOTS-1245cDOTS-345cDOTS-1345
cDOTS-2345cDOTS-12345cDOTS-6cDOTS-16cDOTS-26cDOTS-126cDOTS-36cDOTS-136cDOTS-236cDOTS-1236cDOTS-46
cDOTS-146cDOTS-246cDOTS-1246cDOTS-346cDOTS-1346cDOTS-2346cDOTS-12346cDOTS-56cDOTS-156cDOTS-256
cDOTS-1256cDOTS-356cDOTS-1356cDOTS-2356cDOTS-12356cDOTS-456cDOTS-1456cDOTS-2456cDOTS-12456
cDOTS-3456cDOTS-13456cDOTS-23456cDOTS-123456cDOTS-7cDOTS-17cDOTS-27cDOTS-127cDOTS-37cDOTS-137
cDOTS-237cDOTS-1237cDOTS-47cDOTS-147cDOTS-247cDOTS-1247cDOTS-347cDOTS-1347cDOTS-2347cDOTS-12347
cDOTS-57cDOTS-157cDOTS-257cDOTS-1257cDOTS-357cDOTS-1357cDOTS-2357cDOTS-12357cDOTS-457cDOTS-1457
cDOTS-2457cDOTS-12457cDOTS-3457cDOTS-13457cDOTS-23457cDOTS-123457cDOTS-67cDOTS-167cDOTS-267
cDOTS-1267cDOTS-367cDOTS-1367cDOTS-2367cDOTS-12367cDOTS-467cDOTS-1467cDOTS-2467cDOTS-12467
cDOTS-3467cDOTS-13467cDOTS-23467cDOTS-123467cDOTS-567cDOTS-1567cDOTS-2567cDOTS-12567cDOTS-3567
cDOTS-13567cDOTS-23567cDOTS-123567cDOTS-4567cDOTS-14567cDOTS-24567cDOTS-124567cDOTS-34567
cDOTS-134567cDOTS-234567cDOTS-1234567cDOTS-8cDOTS-18cDOTS-28cDOTS-128cDOTS-38cDOTS-138cDOTS-238
cDOTS-1238cDOTS-48cDOTS-148cDOTS-248cDOTS-1248cDOTS-348cDOTS-1348cDOTS-2348cDOTS-12348cDOTS-58
cDOTS-158cDOTS-258cDOTS-1258cDOTS-358cDOTS-1358cDOTS-2358cDOTS-12358cDOTS-458cDOTS-1458cDOTS-2458
cDOTS-12458cDOTS-3458cDOTS-13458cDOTS-23458cDOTS-123458cDOTS-68cDOTS-168cDOTS-268cDOTS-1268
cDOTS-368cDOTS-1368cDOTS-2368cDOTS-12368cDOTS-468cDOTS-1468cDOTS-2468cDOTS-12468cDOTS-3468
cDOTS-13468cDOTS-23468cDOTS-123468cDOTS-568cDOTS-1568cDOTS-2568cDOTS-12568cDOTS-3568cDOTS-13568
cDOTS-23568cDOTS-123568cDOTS-4568cDOTS-14568cDOTS-24568cDOTS-124568cDOTS-34568cDOTS-134568
cDOTS-234568cDOTS-1234568cDOTS-78cDOTS-178cDOTS-278cDOTS-1278cDOTS-378cDOTS-1378cDOTS-2378
cDOTS-12378cDOTS-478cDOTS-1478cDOTS-2478cDOTS-12478cDOTS-3478cDOTS-13478cDOTS-23478cDOTS-123478
cDOTS-578cDOTS-1578cDOTS-2578cDOTS-12578cDOTS-3578cDOTS-13578cDOTS-23578cDOTS-123578cDOTS-4578
cDOTS-14578cDOTS-24578cDOTS-124578cDOTS-34578cDOTS-134578cDOTS-234578cDOTS-1234578cDOTS-678
cDOTS-1678cDOTS-2678cDOTS-12678cDOTS-3678cDOTS-13678cDOTS-23678cDOTS-123678cDOTS-4678cDOTS-14678
cDOTS-24678cDOTS-124678cDOTS-34678cDOTS-134678cDOTS-234678cDOTS-1234678cDOTS-5678cDOTS-15678
cDOTS-25678cDOTS-125678cDOTS-35678cDOTS-135678cDOTS-235678cDOTS-1235678cDOTS-45678cDOTS-145678
cDOTS-245678cDOTS-1245678cDOTS-345678cDOTS-1345678cDOTS-2345678cDOTS-12345678
aRIGHTWARDS TWO-HEADED ARROW WITH VERTICAL STROKEeDOUBLE VERTICAL STROKE
aLEFTWARDS DOUBLE ARROW WITH VERTICAL STROKEaRIGHTWARDS DOUBLE ARROW WITH VERTICAL STROKE
aLEFT RIGHT DOUBLE ARROW WITH VERTICAL STROKEaRIGHTWARDS TWO-HEADED ARROW FROM BAR
aLEFTWARDS DOUBLE ARROW FROM BARaRIGHTWARDS DOUBLE ARROW FROM BAR
aDOWNWARDS ARROW WITH HORIZONTAL STROKEaUPWARDS ARROW WITH HORIZONTAL STROKEbTRIPLE ARROW
aDOWNWARDS TRIPLE ARROWaLEFTWARDS DOUBLE DASH ARROWaRIGHTWARDS DOUBLE DASH ARROW
aLEFTWARDS TRIPLE DASH ARROWaRIGHTWARDS TRIPLE DASH ARROWbTWO-HEADED TRIPLE DASH ARROW
bARROW WITH DOTTED STEMaUPWARDS ARROW TO BARaDOWNWARDS ARROW TO BAR
aRIGHTWARDS ARROW WITH TAIL WITH VERTICAL STROKEfDOUBLE VERTICAL STROKEbTWO-HEADED ARROW WITH TAIL
fWITH VERTICAL STROKEgDOUBLE VERTICAL STROKEaLEFTWARDS ARROW-TAILaRIGHTWARDS ARROW-TAIL
aLEFTWARDS DOUBLE ARROW-TAILaRIGHTWARDS DOUBLE ARROW-TAILaLEFTWARDS ARROW TO BLACK DIAMOND
aRIGHTWARDS ARROW TO BLACK DIAMONDaLEFTWARDS ARROW FROM BAR TO BLACK DIAMOND
aRIGHTWARDS ARROW FROM BAR TO BLACK DIAMONDaNORTH WEST AND SOUTH EAST ARROW
bEAST AND SOUTH WEST ARROWbWEST ARROW WITH HOOKbEAST ARROW WITH HOOKaSOUTH EAST ARROW WITH HOOK
bWEST ARROW WITH HOOKaNORTH WEST ARROW AND NORTH EAST ARROWbEAST ARROW AND SOUTH EAST ARROW
aSOUTH EAST ARROW AND SOUTH WEST ARROWbWEST ARROW AND NORTH WEST ARROW
aRISING DIAGONAL CROSSING FALLING DIAGONALaFALLING DIAGONAL CROSSING RISING DIAGONAL
aSOUTH EAST ARROW CROSSING NORTH EAST ARROWaNORTH EAST ARROW CROSSING SOUTH EAST ARROW
aFALLING DIAGONAL CROSSING NORTH EAST ARROWaRISING DIAGONAL CROSSING SOUTH EAST ARROW
aNORTH EAST ARROW CROSSING NORTH WEST ARROWbWEST ARROW CROSSING NORTH EAST ARROW
aWAVE ARROW POINTING DIRECTLY RIGHTaARROW POINTING RIGHTWARDS THEN CURVING UPWARDSfDOWNWARDS
cDOWNWARDS THEN CURVING LEFTWARDSfRIGHTWARDSaRIGHT-SIDE ARC CLOCKWISE ARROW
aLEFT-SIDE ARC ANTICLOCKWISE ARROWaTOP ARC ANTICLOCKWISE ARROWaBOTTOM ARC ANTICLOCKWISE ARROW
aTOP ARC CLOCKWISE ARROW WITH MINUScANTICLOCKWISE ARROW WITH PLUS
aLOWER RIGHT SEMICIRCULAR CLOCKWISE ARROWbLEFT SEMICIRCULAR ANTICLOCKWISE ARROW
aANTICLOCKWISE CLOSED CIRCLE ARROWaCLOCKWISE CLOSED CIRCLE ARROW
aRIGHTWARDS ARROW ABOVE SHORT LEFTWARDS ARROWaLEFTWARDS ARROW ABOVE SHORT RIGHTWARDS ARROW
aSHORT RIGHTWARDS ARROW ABOVE LEFTWARDS ARROWaRIGHTWARDS ARROW WITH PLUS BELOW
aLEFTWARDS ARROW WITH PLUS BELOWaRIGHTWARDS ARROW THROUGH XaLEFT RIGHT ARROW THROUGH SMALL CIRCLE
aUPWARDS TWO-HEADED ARROW FROM SMALL CIRCLEaLEFT BARB UP RIGHT BARB DOWN HARPOON
cDOWN RIGHT BARB UP HARPOONaUP BARB RIGHT DOWN BARB LEFT HARPOONcLEFT DOWN BARB RIGHT HARPOON
aLEFT BARB UP RIGHT BARB UP HARPOONaUP BARB RIGHT DOWN BARB RIGHT HARPOON
aLEFT BARB DOWN RIGHT BARB DOWN HARPOONaUP BARB LEFT DOWN BARB LEFT HARPOON
aLEFTWARDS HARPOON WITH BARB UP TO BARaRIGHTWARDS HARPOON WITH BARB UP TO BAR
aUPWARDS HARPOON WITH BARB RIGHT TO BARaDOWNWARDS HARPOON WITH BARB RIGHT TO BAR
aLEFTWARDS HARPOON WITH BARB DOWN TO BARaRIGHTWARDS HARPOON WITH BARB DOWN TO BAR
aUPWARDS HARPOON WITH BARB LEFT TO BARaDOWNWARDS HARPOON WITH BARB LEFT TO BAR
aLEFTWARDS HARPOON WITH BARB UP FROM BARaRIGHTWARDS HARPOON WITH BARB UP FROM BAR
aUPWARDS HARPOON WITH BARB RIGHT FROM BARaDOWNWARDS HARPOON WITH BARB RIGHT FROM BAR
aLEFTWARDS HARPOON WITH BARB DOWN FROM BARaRIGHTWARDS HARPOON WITH BARB DOWN FROM BAR
aUPWARDS HARPOON WITH BARB LEFT FROM BARaDOWNWARDS HARPOON WITH BARB LEFT FROM BAR
aLEFTWARDS HARPOON WITH BARB UP ABOVE LEFTWARDS HARPOON WITH BARB DOWN
aUPWARDS HARPOON WITH BARB LEFT BESIDE UPWARDS HARPOON WITH BARB RIGHT
aRIGHTWARDS HARPOON WITH BARB UP ABOVE RIGHTWARDS HARPOON WITH BARB DOWN
aDOWNWARDS HARPOON WITH BARB LEFT BESIDE DOWNWARDS HARPOON WITH BARB RIGHT
aLEFTWARDS HARPOON WITH BARB UP ABOVE RIGHTWARDS HARPOON WITH BARB UP
eDOWN ABOVE RIGHTWARDS HARPOON WITH BARB DOWN
aRIGHTWARDS HARPOON WITH BARB UP ABOVE LEFTWARDS HARPOON WITH BARB UP
eDOWN ABOVE LEFTWARDS HARPOON WITH BARB DOWNaLEFTWARDS HARPOON WITH BARB UP ABOVE LONG DASH
eDOWN BELOW LONG DASHaRIGHTWARDS HARPOON WITH BARB UP ABOVE LONG DASHeDOWN BELOW LONG DASH
aUPWARDS HARPOON WITH BARB LEFT BESIDE DOWNWARDS HARPOON WITH BARB RIGHT
aDOWNWARDS HARPOON WITH BARB LEFT BESIDE UPWARDS HARPOON WITH BARB RIGHT
aRIGHT DOUBLE ARROW WITH ROUNDED HEADaEQUALS SIGN ABOVE RIGHTWARDS ARROW
aTILDE OPERATOR ABOVE RIGHTWARDS ARROWaLEFTWARDS ARROW ABOVE TILDE OPERATOR
aRIGHTWARDS ARROW ABOVE TILDE OPERATORdALMOST EQUAL TOaLESS-THAN ABOVE LEFTWARDS ARROW
aLEFTWARDS ARROW THROUGH LESS-THANaGREATER-THAN ABOVE RIGHTWARDS ARROW
aSUBSET ABOVE RIGHTWARDS ARROWaLEFTWARDS ARROW THROUGH SUBSETaSUPERSET ABOVE LEFTWARDS ARROW
aLEFT FISH TAILaRIGHT FISH TAILaUP FISH TAILaDOWN FISH TAILaTRIPLE VERTICAL BAR DELIMITER
aZ NOTATION SPOTcTYPE COLONaLEFT WHITE CURLY BRACKETaRIGHT WHITE CURLY BRACKET
aLEFT WHITE PARENTHESISaRIGHT WHITE PARENTHESISaZ NOTATION LEFT IMAGE BRACKETcRIGHT IMAGE BRACKET
cLEFT BINDING BRACKETcRIGHT BINDING BRACKETaLEFT SQUARE BRACKET WITH UNDERBAR
aRIGHT SQUARE BRACKET WITH UNDERBARaLEFT SQUARE BRACKET WITH TICK IN TOP CORNER
aRIGHT SQUARE BRACKET WITH TICK IN BOTTOM CORNERaLEFT SQUARE BRACKET WITH TICK IN BOTTOM CORNER
aRIGHT SQUARE BRACKET WITH TICK IN TOP CORNERaLEFT ANGLE BRACKET WITH DOT
aRIGHT ANGLE BRACKET WITH DOTaLEFT ARC LESS-THAN BRACKETaRIGHT ARC GREATER-THAN BRACKET
aDOUBLE LEFT ARC GREATER-THAN BRACKETbRIGHT ARC LESS-THAN BRACKET
aLEFT BLACK TORTOISE SHELL BRACKETaRIGHT BLACK TORTOISE SHELL BRACKETaDOTTED FENCE
aVERTICAL ZIGZAG LINEaMEASURED ANGLE OPENING LEFTaRIGHT ANGLE VARIANT WITH SQUARE
aMEASURED RIGHT ANGLE WITH DOTaANGLE WITH S INSIDEaACUTE ANGLEaSPHERICAL ANGLE OPENING LEFTdUP
aTURNED ANGLEaREVERSED ANGLEaANGLE WITH UNDERBARaREVERSED ANGLE WITH UNDERBAR
aOBLIQUE ANGLE OPENING UPdDOWNaMEASURED ANGLE WITH OPEN ARM ENDING IN ARROW POINTING UP AND RIGHT
lLEFTjDOWN AND RIGHTlLEFTjRIGHT AND UPjLEFT AND UPjRIGHT AND DOWNjLEFT AND DOWNaREVERSED EMPTY SET
aEMPTY SET WITH OVERBARdSMALL CIRCLE ABOVEdRIGHT ARROW ABOVEdLEFT ARROW ABOVE
aCIRCLE WITH HORIZONTAL BARaCIRCLED VERTICAL BARbPARALLELbREVERSE SOLIDUSbPERPENDICULAR
aCIRCLE DIVIDED BY HORIZONTAL BAR AND TOP HALF DIVIDED BY VERTICAL BARbWITH SUPERIMPOSED X
aCIRCLED ANTICLOCKWISE-ROTATED DIVISION SIGNaUP ARROW THROUGH CIRCLEaCIRCLED WHITE BULLETbBULLET
bLESS-THANbGREATER-THANaCIRCLE WITH SMALL CIRCLE TO THE RIGHTcTWO HORIZONTAL STROKES TO THE RIGHT
aSQUARED RISING DIAGONAL SLASHbFALLING DIAGONAL SLASHbASTERISKbSMALL CIRCLEbSQUARE
aTWO JOINED SQUARESaTRIANGLE WITH DOT ABOVEcUNDERBARaS IN TRIANGLEaTRIANGLE WITH SERIFS AT BOTTOM
aRIGHT TRIANGLE ABOVE LEFT TRIANGLEaLEFT TRIANGLE BESIDE VERTICAL BAR
aVERTICAL BAR BESIDE RIGHT TRIANGLEaBOWTIE WITH LEFT HALF BLACKcRIGHT HALF BLACKaBLACK BOWTIE
aTIMES WITH LEFT HALF BLACKcRIGHT HALF BLACKaWHITE HOURGLASSaBLACK HOURGLASSaLEFT WIGGLY FENCE
aRIGHT WIGGLY FENCEaLEFT DOUBLE WIGGLY FENCEaRIGHT DOUBLE WIGGLY FENCEaINCOMPLETE INFINITY
aTIE OVER INFINITYaINFINITY NEGATED WITH VERTICAL BARaDOUBLE-ENDED MULTIMAP
aSQUARE WITH CONTOURED OUTLINEaINCREASES ASaSHUFFLE PRODUCTaEQUALS SIGN AND SLANTED PARALLEL
fWITH TILDE ABOVEaIDENTICAL TO AND SLANTED PARALLELaGLEICH STARKaTHERMODYNAMIC
aDOWN-POINTING TRIANGLE WITH LEFT HALF BLACKdRIGHT HALF BLACKaBLACK DIAMOND WITH DOWN ARROW
bLOZENGEaWHITE CIRCLE WITH DOWN ARROWaBLACK CIRCLE WITH DOWN ARROWaERROR-BARRED WHITE SQUARE
bBLACK SQUAREbWHITE DIAMONDbBLACK DIAMONDbWHITE CIRCLEbBLACK CIRCLEaRULE-DELAYED
aREVERSE SOLIDUS OPERATORaSOLIDUS WITH OVERBARaREVERSE SOLIDUS WITH HORIZONTAL STROKEaBIG SOLIDUS
bREVERSE SOLIDUSaDOUBLE PLUSaTRIPLE PLUSaLEFT-POINTING CURVED ANGLE BRACKET
aRIGHT-POINTING CURVED ANGLE BRACKETaTINYaMINYaN-ARY CIRCLED DOT OPERATORcPLUS OPERATOR
cTIMES OPERATORbUNION OPERATOR WITH DOTePLUSbSQUARE INTERSECTION OPERATORcUNION OPERATOR
aTWO LOGICAL AND OPERATORcOR OPERATORaN-ARY TIMES OPERATORaMODULO TWO SUMaSUMMATION WITH INTEGRAL
aQUADRUPLE INTEGRAL OPERATORaFINITE PART INTEGRALaINTEGRAL WITH DOUBLE STROKEbAVERAGE WITH SLASH
aCIRCULATION FUNCTIONaANTICLOCKWISE INTEGRATIONaLINE INTEGRATION WITH RECTANGULAR PATH AROUND POLE
dSEMICIRCULAR PATH AROUND POLEcNOT INCLUDING THE POLEaINTEGRAL AROUND A POINT OPERATOR
aQUATERNION INTEGRAL OPERATORaINTEGRAL WITH LEFTWARDS ARROW WITH HOOKcTIMES SIGNcINTERSECTION
cUNIONcOVERBARcUNDERBARaJOINaLARGE LEFT TRIANGLE OPERATORaZ NOTATION SCHEMA COMPOSITIONdPIPING
dPROJECTIONaPLUS SIGN WITH SMALL CIRCLE ABOVEdCIRCUMFLEX ACCENT ABOVEdTILDE ABOVEdDOT BELOW
dTILDE BELOWdSUBSCRIPT TWOdBLACK TRIANGLEaMINUS SIGN WITH COMMA ABOVEdDOT BELOWdFALLING DOTS
dRISING DOTSaPLUS SIGN IN LEFT HALF CIRCLEdRIGHT HALF CIRCLEaVECTOR OR CROSS PRODUCT
aMULTIPLICATION SIGN WITH DOT ABOVEdUNDERBARaSEMIDIRECT PRODUCT WITH BOTTOM CLOSEDaSMASH PRODUCT
aMULTIPLICATION SIGN IN LEFT HALF CIRCLEdRIGHT HALF CIRCLE
aCIRCLED MULTIPLICATION SIGN WITH CIRCUMFLEX ACCENTaMULTIPLICATION SIGN IN DOUBLE CIRCLE
aCIRCLED DIVISION SIGNaPLUS SIGN IN TRIANGLEaMINUS SIGN IN TRIANGLE
aMULTIPLICATION SIGN IN TRIANGLEaINTERIOR PRODUCTaRIGHTHAND INTERIOR PRODUCT
aZ NOTATION RELATIONAL COMPOSITIONaAMALGAMATION OR COPRODUCTaINTERSECTION WITH DOT
aUNION WITH MINUS SIGNcOVERBARaINTERSECTION WITH OVERBARcLOGICAL ANDaUNION WITH LOGICAL OR
bABOVE INTERSECTIONaINTERSECTION ABOVE UNIONaUNION ABOVE BAR ABOVE INTERSECTION
aINTERSECTION ABOVE BAR ABOVE UNIONaUNION BESIDE AND JOINED WITH UNION
aINTERSECTION BESIDE AND JOINED WITH INTERSECTIONaCLOSED UNION WITH SERIFS
bINTERSECTION WITH SERIFSaDOUBLE SQUARE INTERSECTIONcUNION
aCLOSED UNION WITH SERIFS AND SMASH PRODUCTaLOGICAL AND WITH DOT ABOVEbOR WITH DOT ABOVE
aDOUBLE LOGICAL ANDcORaTWO INTERSECTING LOGICAL ANDdORaSLOPING LARGE ORcAND
aLOGICAL OR OVERLAPPING LOGICAL ANDbAND WITH MIDDLE STEMbOR WITH MIDDLE STEM
bAND WITH HORIZONTAL DASHbOR WITH HORIZONTAL DASHbAND WITH DOUBLE OVERBARdUNDERBARdDOUBLE UNDERBAR
aSMALL VEE WITH UNDERBARaLOGICAL OR WITH DOUBLE OVERBAReUNDERBARaZ NOTATION DOMAIN ANTIRESTRICTION
cRANGE ANTIRESTRICTIONaEQUALS SIGN WITH DOT BELOWaIDENTICAL WITH DOT ABOVE
aTRIPLE HORIZONTAL BAR WITH DOUBLE VERTICAL STROKEeTRIPLE VERTICAL STROKE
aTILDE OPERATOR WITH DOT ABOVEdRISING DOTSaSIMILAR MINUS SIMILARaCONGRUENT WITH DOT ABOVE
aEQUALS WITH ASTERISKaALMOST EQUAL TO WITH CIRCUMFLEX ACCENTaAPPROXIMATELY EQUAL OR EQUAL TO
aEQUALS SIGN ABOVE PLUS SIGNaPLUS SIGN ABOVE EQUALS SIGNaEQUALS SIGN ABOVE TILDE OPERATOR
aDOUBLE COLON EQUALaTWO CONSECUTIVE EQUALS SIGNSaTHREE CONSECUTIVE EQUALS SIGNS
aEQUALS SIGN WITH TWO DOTS ABOVE AND TWO DOTS BELOWaEQUIVALENT WITH FOUR DOTS ABOVE
aLESS-THAN WITH CIRCLE INSIDEaGREATER-THAN WITH CIRCLE INSIDEaLESS-THAN WITH QUESTION MARK ABOVE
aGREATER-THAN WITH QUESTION MARK ABOVEaLESS-THAN OR SLANTED EQUAL TO
aGREATER-THAN OR SLANTED EQUAL TOaLESS-THAN OR SLANTED EQUAL TO WITH DOT INSIDE
aGREATER-THAN OR SLANTED EQUAL TO WITH DOT INSIDEaLESS-THAN OR SLANTED EQUAL TO WITH DOT ABOVE
aGREATER-THAN OR SLANTED EQUAL TO WITH DOT ABOVE
aLESS-THAN OR SLANTED EQUAL TO WITH DOT ABOVE RIGHT
aGREATER-THAN OR SLANTED EQUAL TO WITH DOT ABOVE LEFTaLESS-THAN OR APPROXIMATE
aGREATER-THAN OR APPROXIMATEaLESS-THAN AND SINGLE-LINE NOT EQUAL TO
aGREATER-THAN AND SINGLE-LINE NOT EQUAL TOaLESS-THAN AND NOT APPROXIMATE
aGREATER-THAN AND NOT APPROXIMATEaLESS-THAN ABOVE DOUBLE-LINE EQUAL ABOVE GREATER-THAN
aGREATER-THAN ABOVE DOUBLE-LINE EQUAL ABOVE LESS-THANaLESS-THAN ABOVE SIMILAR OR EQUAL
aGREATER-THAN ABOVE SIMILAR OR EQUALaLESS-THAN ABOVE SIMILAR ABOVE GREATER-THAN
aGREATER-THAN ABOVE SIMILAR ABOVE LESS-THANaLESS-THAN ABOVE GREATER-THAN ABOVE DOUBLE-LINE EQUAL
aGREATER-THAN ABOVE LESS-THAN ABOVE DOUBLE-LINE EQUAL
aLESS-THAN ABOVE SLANTED EQUAL ABOVE GREATER-THAN ABOVE SLANTED EQUAL
aGREATER-THAN ABOVE SLANTED EQUAL ABOVE LESS-THAN ABOVE SLANTED EQUAL
aSLANTED EQUAL TO OR LESS-THANeGREATER-THANeLESS-THAN WITH DOT INSIDEeGREATER-THAN WITH DOT INSIDE
aDOUBLE-LINE EQUAL TO OR LESS-THANeGREATER-THANbSLANTED EQUAL TO OR LESS-THANfGREATER-THAN
aSIMILAR OR LESS-THANcGREATER-THANbABOVE LESS-THAN ABOVE EQUALS SIGN
cGREATER-THAN ABOVE EQUALS SIGNaDOUBLE NESTED LESS-THANcGREATER-THANcLESS-THAN WITH UNDERBAR
aGREATER-THAN OVERLAPPING LESS-THANbBESIDE LESS-THANaLESS-THAN CLOSED BY CURVE
aGREATER-THAN CLOSED BY CURVEaLESS-THAN CLOSED BY CURVE ABOVE SLANTED EQUAL
aGREATER-THAN CLOSED BY CURVE ABOVE SLANTED EQUALaSMALLER THANaLARGER THAN
aSMALLER THAN OR EQUAL TOaLARGER THAN OR EQUAL TOaEQUALS SIGN WITH BUMPY ABOVE
aPRECEDES ABOVE SINGLE-LINE EQUALS SIGNaSUCCEEDS ABOVE SINGLE-LINE EQUALS SIGN
aPRECEDES ABOVE SINGLE-LINE NOT EQUAL TOaSUCCEEDS ABOVE SINGLE-LINE NOT EQUAL TO
aPRECEDES ABOVE EQUALS SIGNaSUCCEEDS ABOVE EQUALS SIGNaPRECEDES ABOVE NOT EQUAL TO
aSUCCEEDS ABOVE NOT EQUAL TOaPRECEDES ABOVE ALMOST EQUAL TOaSUCCEEDS ABOVE ALMOST EQUAL TO
aPRECEDES ABOVE NOT ALMOST EQUAL TOaSUCCEEDS ABOVE NOT ALMOST EQUAL TOaDOUBLE PRECEDESbSUCCEEDS
aSUBSET WITH DOTaSUPERSET WITH DOTaSUBSET WITH PLUS SIGN BELOWaSUPERSET WITH PLUS SIGN BELOW
aSUBSET WITH MULTIPLICATION SIGN BELOWaSUPERSET WITH MULTIPLICATION SIGN BELOW
aSUBSET OF OR EQUAL TO WITH DOT ABOVEaSUPERSET OF OR EQUAL TO WITH DOT ABOVE
aSUBSET OF ABOVE EQUALS SIGNaSUPERSET OF ABOVE EQUALS SIGNaSUBSET OF ABOVE TILDE OPERATOR
aSUPERSET OF ABOVE TILDE OPERATORaSUBSET OF ABOVE ALMOST EQUAL TO
aSUPERSET OF ABOVE ALMOST EQUAL TOaSUBSET OF ABOVE NOT EQUAL TOaSUPERSET OF ABOVE NOT EQUAL TO
aSQUARE LEFT OPEN BOX OPERATORbRIGHT OPEN BOX OPERATORaCLOSED SUBSETbSUPERSETbSUBSET OR EQUAL TO
bSUPERSET OR EQUAL TOaSUBSET ABOVE SUPERSETaSUPERSET ABOVE SUBSETaSUBSET ABOVE SUBSET
aSUPERSET ABOVE SUPERSETbBESIDE SUBSETcAND JOINED BY DASH WITH SUBSETaELEMENT OF OPENING DOWNWARDS
aPITCHFORK WITH TEE TOPaTRANSVERSAL INTERSECTIONaFORKINGaNONFORKINGaSHORT LEFT TACKbDOWN TACK
bUP TACKaPERPENDICULAR WITH SaVERTICAL BAR TRIPLE RIGHT TURNSTILE
aDOUBLE VERTICAL BAR LEFT TURNSTILEaVERTICAL BAR DOUBLE LEFT TURNSTILE
aDOUBLE VERTICAL BAR DOUBLE LEFT TURNSTILEaLONG DASH FROM LEFT MEMBER OF DOUBLE VERTICAL
aSHORT DOWN TACK WITH OVERBARbUP TACK WITH UNDERBARdABOVE SHORT DOWN TACKaDOUBLE DOWN TACKbUP TACK
bSTROKE NOT SIGNaREVERSED DOUBLE STROKE NOT SIGNaDOES NOT DIVIDE WITH REVERSED NEGATION SLASH
aVERTICAL LINE WITH CIRCLE ABOVEeBELOWaDOWN TACK WITH CIRCLE BELOWaPARALLEL WITH HORIZONTAL STROKE
cTILDE OPERATORaTRIPLE VERTICAL BAR BINARY RELATIONdWITH HORIZONTAL STROKEbCOLON OPERATOR
bNESTED LESS-THANcGREATER-THANaDOUBLE-LINE SLANTED LESS-THAN OR EQUAL TOcGREATER-THAN OR EQUAL TO
aTRIPLE SOLIDUS BINARY RELATIONaLARGE TRIPLE VERTICAL BAR OPERATORaDOUBLE SOLIDUS OPERATOR
aWHITE VERTICAL BARaN-ARY WHITE VERTICAL BARaNORTH EAST WHITE ARROWbWEST WHITE ARROW
aSOUTH EAST WHITE ARROWbWEST WHITE ARROWaLEFT RIGHT WHITE ARROWaLEFTWARDS BLACK ARROW
aUPWARDS BLACK ARROWaDOWNWARDS BLACK ARROWaNORTH EAST BLACK ARROWbWEST BLACK ARROW
aSOUTH EAST BLACK ARROWbWEST BLACK ARROWaLEFT RIGHT BLACK ARROWaUP DOWN BLACK ARROW
aRIGHTWARDS ARROW WITH TIP DOWNWARDSeUPWARDSaLEFTWARDS ARROW WITH TIP DOWNWARDSeUPWARDS
aSQUARE WITH TOP HALF BLACKcBOTTOM HALF BLACKcUPPER RIGHT DIAGONAL HALF BLACK
cLOWER LEFT DIAGONAL HALF BLACKaDIAMOND WITH LEFT HALF BLACKcRIGHT HALF BLACKcTOP HALF BLACK
cBOTTOM HALF BLACKaDOTTED SQUAREaBLACK LARGE SQUAREaWHITE LARGE SQUAREaBLACK VERY SMALL SQUARE
aWHITE VERY SMALL SQUAREaBLACK PENTAGONaWHITE PENTAGONbHEXAGONaBLACK HEXAGON
aHORIZONTAL BLACK HEXAGONaBLACK LARGE CIRCLEbMEDIUM DIAMONDaWHITE MEDIUM DIAMOND
aBLACK MEDIUM LOZENGEaWHITE MEDIUM LOZENGEaBLACK SMALL DIAMONDcLOZENGEaWHITE SMALL LOZENGE
aBLACK HORIZONTAL ELLIPSEaWHITE HORIZONTAL ELLIPSEaBLACK VERTICAL ELLIPSEaWHITE VERTICAL ELLIPSE
aLEFT ARROW WITH SMALL CIRCLEaTHREE LEFTWARDS ARROWSaLEFT ARROW WITH CIRCLED PLUS
aLONG LEFTWARDS SQUIGGLE ARROWaLEFTWARDS TWO-HEADED ARROW WITH VERTICAL STROKE
eDOUBLE VERTICAL STROKEdFROM BARcTRIPLE DASH ARROWbARROW WITH DOTTED STEM
dTAIL WITH VERTICAL STROKEfDOUBLE VERTICAL STROKEbTWO-HEADED ARROW WITH TAILfWITH VERTICAL STROKE
gDOUBLE VERTICAL STROKEbARROW THROUGH XaWAVE ARROW POINTING DIRECTLY LEFT
aEQUALS SIGN ABOVE LEFTWARDS ARROWaREVERSE TILDE OPERATOR ABOVE LEFTWARDS ARROW
aLEFTWARDS ARROW ABOVE REVERSE ALMOST EQUAL TOaRIGHTWARDS ARROW THROUGH GREATER-THANdSUPERSET
aLEFTWARDS QUADRUPLE ARROWaRIGHTWARDS QUADRUPLE ARROW
aREVERSE TILDE OPERATOR ABOVE RIGHTWARDS ARROWaRIGHTWARDS ARROW ABOVE REVERSE ALMOST EQUAL TO
aTILDE OPERATOR ABOVE LEFTWARDS ARROWaLEFTWARDS ARROW ABOVE ALMOST EQUAL TOdREVERSE TILDE OPERATOR
aRIGHTWARDS ARROW ABOVE REVERSE TILDE OPERATORaDOWNWARDS TRIANGLE-HEADED ZIGZAG ARROW
aSHORT SLANTED NORTH ARROWbBACKSLANTED SOUTH ARROWaWHITE MEDIUM STARaBLACK SMALL STAR
aWHITE SMALL STARaBLACK RIGHT-POINTING PENTAGONaWHITE RIGHT-POINTING PENTAGONaHEAVY LARGE CIRCLE
bOVAL WITH OVAL INSIDEbCIRCLE WITH CIRCLE INSIDEbCIRCLEbCIRCLED SALTIRE
aSLANTED NORTH ARROW WITH HOOKED HEADaBACKSLANTED SOUTH ARROW WITH HOOKED TAIL
aSLANTED NORTH ARROW WITH HORIZONTAL TAILaBACKSLANTED SOUTH ARROW WITH HORIZONTAL TAIL
aBENT ARROW POINTING DOWNWARDS THEN NORTH EASTaSHORT BENT ARROW POINTING DOWNWARDS THEN NORTH EAST
aLEFTWARDS TRIANGLE-HEADED ARROWaUPWARDS TRIANGLE-HEADED ARROWaRIGHTWARDS TRIANGLE-HEADED ARROW
aDOWNWARDS TRIANGLE-HEADED ARROWaLEFT RIGHT TRIANGLE-HEADED ARROWaUP DOWN TRIANGLE-HEADED ARROW
aNORTH WEST TRIANGLE-HEADED ARROWbEAST TRIANGLE-HEADED ARROWaSOUTH EAST TRIANGLE-HEADED ARROW
bWEST TRIANGLE-HEADED ARROWaLEFTWARDS TRIANGLE-HEADED DASHED ARROW
aUPWARDS TRIANGLE-HEADED DASHED ARROWaRIGHTWARDS TRIANGLE-HEADED DASHED ARROW
aDOWNWARDS TRIANGLE-HEADED DASHED ARROWaCLOCKWISE TRIANGLE-HEADED OPEN CIRCLE ARROW
aANTICLOCKWISE TRIANGLE-HEADED OPEN CIRCLE ARROWaLEFTWARDS TRIANGLE-HEADED ARROW TO BAR
aUPWARDS TRIANGLE-HEADED ARROW TO BARaRIGHTWARDS TRIANGLE-HEADED ARROW TO BAR
aDOWNWARDS TRIANGLE-HEADED ARROW TO BAR:2B76aNORTH WEST TRIANGLE-HEADED ARROW TO BAR
bEAST TRIANGLE-HEADED ARROW TO BARaSOUTH EAST TRIANGLE-HEADED ARROW TO BAR
bWEST TRIANGLE-HEADED ARROW TO BARaLEFTWARDS TRIANGLE-HEADED ARROW WITH DOUBLE HORIZONTAL STROKE
aUPWARDS TRIANGLE-HEADED ARROW WITH DOUBLE HORIZONTAL STROKE
aRIGHTWARDS TRIANGLE-HEADED ARROW WITH DOUBLE HORIZONTAL STROKE
aDOWNWARDS TRIANGLE-HEADED ARROW WITH DOUBLE HORIZONTAL STROKEaHORIZONTAL TAB KEYaVERTICAL TAB KEY
aLEFTWARDS TRIANGLE-HEADED ARROW OVER RIGHTWARDS TRIANGLE-HEADED ARROW
aUPWARDS TRIANGLE-HEADED ARROW LEFTWARDS OF DOWNWARDS TRIANGLE-HEADED ARROW
aRIGHTWARDS TRIANGLE-HEADED ARROW OVER LEFTWARDS TRIANGLE-HEADED ARROW
aDOWNWARDS TRIANGLE-HEADED ARROW LEFTWARDS OF UPWARDS TRIANGLE-HEADED ARROW
aLEFTWARDS TRIANGLE-HEADED PAIRED ARROWSaUPWARDS TRIANGLE-HEADED PAIRED ARROWS
aRIGHTWARDS TRIANGLE-HEADED PAIRED ARROWSaDOWNWARDS TRIANGLE-HEADED PAIRED ARROWS
aLEFTWARDS BLACK CIRCLED WHITE ARROWaUPWARDS BLACK CIRCLED WHITE ARROW
aRIGHTWARDS BLACK CIRCLED WHITE ARROWaDOWNWARDS BLACK CIRCLED WHITE ARROW
aANTICLOCKWISE TRIANGLE-HEADED RIGHT U-SHAPED ARROWcBOTTOM U-SHAPED ARROWcLEFT U-SHAPED ARROW
cTOP U-SHAPED ARROWaRETURN LEFTbRIGHTaNEWLINE LEFTbRIGHTaFOUR CORNER ARROWS CIRCLING ANTICLOCKWISE
aRIGHTWARDS BLACK ARROW:2B97aSYMBOL FOR TYPE A ELECTRONICS
aTHREE-D TOP-LIGHTED LEFTWARDS EQUILATERAL ARROWHEADbRIGHT-LIGHTED UPWARDS EQUILATERAL ARROWHEAD
bTOP-LIGHTED RIGHTWARDS EQUILATERAL ARROWHEADbLEFT-LIGHTED DOWNWARDS EQUILATERAL ARROWHEAD
aBLACK LEFTWARDS EQUILATERAL ARROWHEADbUPWARDS EQUILATERAL ARROWHEAD
bRIGHTWARDS EQUILATERAL ARROWHEADbDOWNWARDS EQUILATERAL ARROWHEAD
aDOWNWARDS TRIANGLE-HEADED ARROW WITH LONG TIP LEFTWARDSgRIGHTWARDS
aUPWARDS TRIANGLE-HEADED ARROW WITH LONG TIP LEFTWARDSgRIGHTWARDS
aLEFTWARDS TRIANGLE-HEADED ARROW WITH LONG TIP UPWARDS
aRIGHTWARDS TRIANGLE-HEADED ARROW WITH LONG TIP UPWARDS
aLEFTWARDS TRIANGLE-HEADED ARROW WITH LONG TIP DOWNWARDS
aRIGHTWARDS TRIANGLE-HEADED ARROW WITH LONG TIP DOWNWARDS
aBLACK CURVED DOWNWARDS AND LEFTWARDS ARROWeRIGHTWARDS ARROWcUPWARDS AND LEFTWARDS ARROW
eRIGHTWARDS ARROWcLEFTWARDS AND UPWARDS ARROWcRIGHTWARDS AND UPWARDS ARROW
cLEFTWARDS AND DOWNWARDS ARROWcRIGHTWARDS AND DOWNWARDS ARROWaRIBBON ARROW DOWN LEFTdRIGHTcUP LEFT
dRIGHTcLEFT UPcRIGHT UPcLEFT DOWNcRIGHT DOWNaUPWARDS WHITE ARROW FROM BAR WITH HORIZONTAL BAR
aUP ARROWHEAD IN A RECTANGLE BOXaOVERLAPPING WHITE SQUAREScAND BLACK SQUARESbBLACK SQUARES
aBALLOT BOX WITH LIGHT XaCIRCLED XbBOLD XaBLACK SQUARE CENTREDbDIAMOND CENTRED
aTURNED BLACK PENTAGONaHORIZONTAL BLACK OCTAGONaBLACK OCTAGONbMEDIUM UP-POINTING TRIANGLE CENTRED
cDOWN-POINTING TRIANGLE CENTREDcLEFT-POINTING TRIANGLE CENTREDcRIGHT-POINTING TRIANGLE CENTRED
aNEPTUNE FORM TWOaTOP HALF BLACK CIRCLEaBOTTOM HALF BLACK CIRCLEaLIGHT FOUR POINTED BLACK CUSP
aROTATED LIGHT FOUR POINTED BLACK CUSPaWHITE FOUR POINTED CUSPaROTATED WHITE FOUR POINTED CUSP
aSQUARE POSITION INDICATORaUNCERTAINTY SIGNaGROUP MARKaPLUTO FORM TWOcTHREEcFOURcFIVEaTRANSPLUTO
aPROSERPINAaASTRAEAaHYGIEAaPHOLUSaNESSUSaWHITE MOON SELENAaBLACK DIAMOND ON CROSS
aTRUE LIGHT MOON ARTAaCUPIDOaHADESaZEUSaKRONOSaAPOLLONaADMETOSaVULCANUSaPOSEIDON
aLEFT HALF BLACK STARaRIGHT HALF BLACK STARaSTAR WITH LEFT HALF BLACKcRIGHT HALF BLACK
aLEFTWARDS TWO-HEADED ARROW WITH TRIANGLE ARROWHEADS
aUPWARDS TWO-HEADED ARROW WITH TRIANGLE ARROWHEADS
aRIGHTWARDS TWO-HEADED ARROW WITH TRIANGLE ARROWHEADS
aDOWNWARDS TWO-HEADED ARROW WITH TRIANGLE ARROWHEADSaERIS FORM ONEcTWOaSEDNA
aRUSSIAN ASTROLOGICAL SYMBOL VIGINTILEdNOVILEdQUINTILEdBINOVILEdSENTAGONdTREDECILE
aEQUALS SIGN WITH INFINITY BELOWaUNITED SYMBOLaSEPARATED SYMBOLaDOUBLED SYMBOLaPASSED SYMBOL
aREVERSED RIGHT ANGLEaHELLSCHREIBER PAUSE SYMBOLaGLAGOLITIC CAPITAL LETTER AZUdBUKYdVEDEdGLAGOLI
dDOBROdYESTUdZHIVETEdDZELOdZEMLJAdIZHEdINITIAL IZHEdIdDJERVIdKAKOdLJUDIJEdMYSLITEdNASHIdONUdPOKOJI
dRITSIdSLOVOdTVRIDOdUKUdFRITUdHERUdOTUdPEdSHTAdTSIdCHRIVIdSHAdYERUdYERIdYATIdSPIDERY HAdYU
dSMALL YUSfWITH TAILdYOdIOTATED SMALL YUSdBIG YUSdIOTATED BIG YUSdFITAdIZHITSAdSHTAPIC
dTROKUTASTI AdLATINATE MYSLITEdCAUDATE CHRIVIbSMALL LETTER AZUdBUKYdVEDEdGLAGOLIdDOBROdYESTU
dZHIVETEdDZELOdZEMLJAdIZHEdINITIAL IZHEdIdDJERVIdKAKOdLJUDIJEdMYSLITEdNASHIdONUdPOKOJIdRITSIdSLOVO
dTVRIDOdUKUdFRITUdHERUdOTUdPEdSHTAdTSIdCHRIVIdSHAdYERUdYERIdYATIdSPIDERY HAdYUdSMALL YUSfWITH TAIL
dYOdIOTATED SMALL YUSdBIG YUSdIOTATED BIG YUSdFITAdIZHITSAdSHTAPICdTROKUTASTI AdLATINATE MYSLITE
dCAUDATE CHRIVIaLATIN CAPITAL LETTER L WITH DOUBLE BARbSMALL LETTER L WITH DOUBLE BAR
bCAPITAL LETTER L WITH MIDDLE TILDEdP WITH STROKEdR WITH TAILbSMALL LETTER A WITH STROKE
dT WITH DIAGONAL STROKEbCAPITAL LETTER H WITH DESCENDERbSMALL LETTER H WITH DESCENDER
bCAPITAL LETTER K WITH DESCENDERbSMALL LETTER K WITH DESCENDERbCAPITAL LETTER Z WITH DESCENDER
bSMALL LETTER Z WITH DESCENDERbCAPITAL LETTER ALPHAdM WITH HOOKdTURNED AeALPHA
bSMALL LETTER V WITH RIGHT HOOKbCAPITAL LETTER W WITH HOOKbSMALL LETTER W WITH HOOKdV WITH CURL
bCAPITAL LETTER HALF HbSMALL LETTER HALF HdTAILLESS PHIdE WITH NOTCHdTURNED R WITH TAIL
dO WITH LOW RING INSIDEbLETTER SMALL CAPITAL TURNED EbSUBSCRIPT SMALL LETTER J
aMODIFIER LETTER CAPITAL VaLATIN CAPITAL LETTER S WITH SWASH TAILdZ WITH SWASH TAIL
aCOPTIC CAPITAL LETTER ALFAbSMALL LETTER ALFAbCAPITAL LETTER VIDAbSMALL LETTER VIDA
bCAPITAL LETTER GAMMAbSMALL LETTER GAMMAbCAPITAL LETTER DALDAbSMALL LETTER DALDA
bCAPITAL LETTER EIEbSMALL LETTER EIEbCAPITAL LETTER SOUbSMALL LETTER SOUbCAPITAL LETTER ZATA
bSMALL LETTER ZATAbCAPITAL LETTER HATEbSMALL LETTER HATEbCAPITAL LETTER THETHEbSMALL LETTER THETHE
bCAPITAL LETTER IAUDAbSMALL LETTER IAUDAbCAPITAL LETTER KAPAbSMALL LETTER KAPA
bCAPITAL LETTER LAULAbSMALL LETTER LAULAbCAPITAL LETTER MIbSMALL LETTER MIbCAPITAL LETTER NI
bSMALL LETTER NIbCAPITAL LETTER KSIbSMALL LETTER KSIbCAPITAL LETTER ObSMALL LETTER O
bCAPITAL LETTER PIbSMALL LETTER PIbCAPITAL LETTER RObSMALL LETTER RObCAPITAL LETTER SIMA
bSMALL LETTER SIMAbCAPITAL LETTER TAUbSMALL LETTER TAUbCAPITAL LETTER UAbSMALL LETTER UA
bCAPITAL LETTER FIbSMALL LETTER FIbCAPITAL LETTER KHIbSMALL LETTER KHIbCAPITAL LETTER PSI
bSMALL LETTER PSIbCAPITAL LETTER OOUbSMALL LETTER OOUbCAPITAL LETTER DIALECT-P ALEF
bSMALL LETTER DIALECT-P ALEFbCAPITAL LETTER OLD COPTIC AINbSMALL LETTER OLD COPTIC AIN
bCAPITAL LETTER CRYPTOGRAMMIC EIEbSMALL LETTER CRYPTOGRAMMIC EIEbCAPITAL LETTER DIALECT-P KAPA
bSMALL LETTER DIALECT-P KAPAbCAPITAL LETTER DIALECT-P NIbSMALL LETTER DIALECT-P NI
bCAPITAL LETTER CRYPTOGRAMMIC NIbSMALL LETTER CRYPTOGRAMMIC NIbCAPITAL LETTER OLD COPTIC OOU
bSMALL LETTER OLD COPTIC OOUbCAPITAL LETTER SAMPIbSMALL LETTER SAMPIbCAPITAL LETTER CROSSED SHEI
bSMALL LETTER CROSSED SHEIbCAPITAL LETTER OLD COPTIC SHEIbSMALL LETTER OLD COPTIC SHEI
bCAPITAL LETTER OLD COPTIC ESHbSMALL LETTER OLD COPTIC ESHbCAPITAL LETTER AKHMIMIC KHEI
bSMALL LETTER AKHMIMIC KHEIbCAPITAL LETTER DIALECT-P HORIbSMALL LETTER DIALECT-P HORI
bCAPITAL LETTER OLD COPTIC HORIbSMALL LETTER OLD COPTIC HORIbCAPITAL LETTER OLD COPTIC HA
bSMALL LETTER OLD COPTIC HAbCAPITAL LETTER L-SHAPED HAbSMALL LETTER L-SHAPED HA
bCAPITAL LETTER OLD COPTIC HEIbSMALL LETTER OLD COPTIC HEIbCAPITAL LETTER OLD COPTIC HAT
bSMALL LETTER OLD COPTIC HATbCAPITAL LETTER OLD COPTIC GANGIAbSMALL LETTER OLD COPTIC GANGIA
bCAPITAL LETTER OLD COPTIC DJAbSMALL LETTER OLD COPTIC DJAbCAPITAL LETTER OLD COPTIC SHIMA
bSMALL LETTER OLD COPTIC SHIMAbCAPITAL LETTER OLD NUBIAN SHIMAbSMALL LETTER OLD NUBIAN SHIMA
bCAPITAL LETTER OLD NUBIAN NGIbSMALL LETTER OLD NUBIAN NGIbCAPITAL LETTER OLD NUBIAN NYI
bSMALL LETTER OLD NUBIAN NYIbCAPITAL LETTER OLD NUBIAN WAUbSMALL LETTER OLD NUBIAN WAUbSYMBOL KAI
cMI ROcPI ROcSTAUROScTAU ROcKHI ROcSHIMA SIMAbCAPITAL LETTER CRYPTOGRAMMIC SHEI
bSMALL LETTER CRYPTOGRAMMIC SHEIbCAPITAL LETTER CRYPTOGRAMMIC GANGIA
bSMALL LETTER CRYPTOGRAMMIC GANGIAbCOMBINING NI ABOVEcSPIRITUS ASPERdLENIS
bCAPITAL LETTER BOHAIRIC KHEIbSMALL LETTER BOHAIRIC KHEI:2CF9aCOPTIC OLD NUBIAN FULL STOP
dDIRECT QUESTION MARKdINDIRECT QUESTION MARKdVERSE DIVIDERbFRACTION ONE HALFbFULL STOP
bMORPHOLOGICAL DIVIDERaGEORGIAN SMALL LETTER ANdBANdGANdDONdENdVINdZENdTANdINdKANdLASdMANdNARdON
dPARdZHARdRAEdSANdTARdUNdPHARdKHARdGHANdQARdSHINdCHINdCANdJILdCILdCHARdXANdJHANdHAEdHEdHIEdWEdHAR
dHOE:2D27aGEORGIAN SMALL LETTER YN:2D2DaGEORGIAN SMALL LETTER AEN:2D30aTIFINAGH LETTER YAcYABcYABH
cYAGcYAGHHcBERBER ACADEMY YAJcYAJcYADcYADHcYADDcYADDHcYEYcYAFcYAKcTUAREG YAKcYAKHHcYAH
cBERBER ACADEMY YAHcTUAREG YAHcYAHHcYAAcYAKHcTUAREG YAKHcYAQcTUAREG YAQcYIcYAZHcAHAGGAR YAZH
cTUAREG YAZHcYALcYAMcYANcTUAREG YAGNdYANGcYAPcYUcYARcYARRcYAGHcTUAREG YAGHcAYER YAGHcYAScYASScYASH
cYATcYATHcYACHcYATTcYAVcYAWcYAYcYAZcTAWELLEMET YAZcYAZZcYEcYO:2D6F
aTIFINAGH MODIFIER LETTER LABIALIZATION MARKbSEPARATOR MARK:2D7FaTIFINAGH CONSONANT JOINER
aETHIOPIC SYLLABLE LOAcMOAcROAcSOAcSHOAcBOAcTOAcCOAcNOAcNYOAcGLOTTAL OAcZOAcDOAcDDOAcJOAcTHOAcCHOA
cPHOAcPOAcGGWAcGGWIcGGWEEcGGWE:2DA0aETHIOPIC SYLLABLE SSAcSSUcSSIcSSAAcSSEEcSSEcSSO:2DA8
aETHIOPIC SYLLABLE CCAcCCUcCCIcCCAAcCCEEcCCEcCCO:2DB0aETHIOPIC SYLLABLE ZZAcZZUcZZIcZZAAcZZEEcZZE
cZZO:2DB8aETHIOPIC SYLLABLE CCHAcCCHUcCCHIcCCHAAcCCHEEcCCHEcCCHO:2DC0aETHIOPIC SYLLABLE QYAcQYU
cQYIcQYAAcQYEEcQYEcQYO:2DC8aETHIOPIC SYLLABLE KYAcKYUcKYIcKYAAcKYEEcKYEcKYO:2DD0
aETHIOPIC SYLLABLE XYAcXYUcXYIcXYAAcXYEEcXYEcXYO:2DD8aETHIOPIC SYLLABLE GYAcGYUcGYIcGYAAcGYEEcGYE
cGYO:2DE0aCOMBINING CYRILLIC LETTER BEdVEdGHEdDEdZHEdZEdKAdELdEMdENdOdPEdERdESdTEdHAdTSEdCHEdSHA
dSHCHAdFITAdES-TEdAdIEdDJERVdMONOGRAPH UKdYATdYUdIOTIFIED AdLITTLE YUSdBIG YUSdIOTIFIED BIG YUS
aRIGHT ANGLE SUBSTITUTION MARKERcDOTTED SUBSTITUTION MARKERaLEFT SUBSTITUTION BRACKET
aRIGHT SUBSTITUTION BRACKETaLEFT DOTTED SUBSTITUTION BRACKETaRIGHT DOTTED SUBSTITUTION BRACKET
aRAISED INTERPOLATION MARKERbDOTTED INTERPOLATION MARKERaDOTTED TRANSPOSITION MARKER
aLEFT TRANSPOSITION BRACKETaRIGHT TRANSPOSITION BRACKETaRAISED SQUAREaLEFT RAISED OMISSION BRACKET
aRIGHT RAISED OMISSION BRACKETaEDITORIAL CORONISaPARAGRAPHOSaFORKED PARAGRAPHOS
aREVERSED FORKED PARAGRAPHOSaHYPODIASTOLEaDOTTED OBELOSaDOWNWARDS ANCORAaUPWARDS ANCORA
aDOTTED RIGHT-POINTING ANGLEaDOUBLE OBLIQUE HYPHENaINVERTED INTERROBANGaPALM BRANCH
aHYPHEN WITH DIAERESISaTILDE WITH RING ABOVEaLEFT LOW PARAPHRASE BRACKET
aRIGHT LOW PARAPHRASE BRACKETaTILDE WITH DOT ABOVEdBELOWaLEFT VERTICAL BAR WITH QUILL
aRIGHT VERTICAL BAR WITH QUILLaTOP LEFT HALF BRACKETbRIGHT HALF BRACKETaBOTTOM LEFT HALF BRACKET
bRIGHT HALF BRACKETaLEFT SIDEWAYS U BRACKETaRIGHT SIDEWAYS U BRACKETaLEFT DOUBLE PARENTHESIS
aRIGHT DOUBLE PARENTHESISaTWO DOTS OVER ONE DOT PUNCTUATIONaONE DOT OVER TWO DOTS PUNCTUATION
aSQUARED FOUR DOT PUNCTUATIONaFIVE DOT MARKaREVERSED QUESTION MARKaVERTICAL TILDEaRING POINT
aWORD SEPARATOR MIDDLE DOTaTURNED COMMAaRAISED DOTbCOMMAaTURNED SEMICOLONaDAGGER WITH LEFT GUARD
cRIGHT GUARDaTURNED DAGGERaTOP HALF SECTION SIGNaTWO-EM DASHaTHREE-EM DASHaSTENOGRAPHIC FULL STOP
aVERTICAL SIX DOTSaWIGGLY VERTICAL LINEaCAPITULUMaDOUBLE HYPHENaREVERSED COMMA
aDOUBLE LOW-REVERSED-9 QUOTATION MARKaDASH WITH LEFT UPTURNaDOUBLE SUSPENSION MARK
aINVERTED LOW KAVYKAdWITH KAVYKA ABOVEaLOW KAVYKAcWITH DOTaDOUBLE STACKED COMMAaDOTTED SOLIDUS
aTRIPLE DAGGERaMEDIEVAL COMMAaPARAGRAPHUS MARKaPUNCTUS ELEVATUS MARKaCORNISH VERSE DIVIDER
aCROSS PATTY WITH RIGHT CROSSBARdLEFT CROSSBARaTIRONIAN SIGN CAPITAL ETaMEDIEVAL EXCLAMATION MARK
bQUESTION MARKaLEFT SQUARE BRACKET WITH STROKEaRIGHT SQUARE BRACKET WITH STROKE
aLEFT SQUARE BRACKET WITH DOUBLE STROKEaRIGHT SQUARE BRACKET WITH DOUBLE STROKE
aTOP HALF LEFT PARENTHESIScRIGHT PARENTHESISaBOTTOM HALF LEFT PARENTHESIScRIGHT PARENTHESIS
aOBLIQUE HYPHEN:2E80aCJK RADICAL REPEATcCLIFFcSECOND ONEdTWOdTHREEcPERSONcBOXcTABLEcKNIFE ONEdTWO
cDIVINATIONcSEALcSMALL ONEdTWOcLAME ONEdTWOdTHREEdFOURcSNAKEcTHREADcSNOUT ONEdTWOcHEART ONEdTWO
cHANDcRAP:2E9BaCJK RADICAL CHOKEcSUNcMOONcDEATHcMOTHERcCIVILIANcWATER ONEdTWOcFIREcPAW ONEdTWO
cSIMPLIFIED HALF TREE TRUNKcCOWcDOGcJADEcBOLT OF CLOTHcEYEcSPIRIT ONEdTWOcBAMBOOcSILK
cC-SIMPLIFIED SILKcNET ONEdTWOdTHREEdFOURcMESHcSHEEPcRAMcEWEcOLDcBRUSH ONEdTWOcMEATcMORTAR
cGRASS ONEdTWOdTHREEcTIGERcCLOTHEScWEST ONEdTWOcC-SIMPLIFIED SEEcSIMPLIFIED HORNcHORN
cC-SIMPLIFIED SPEECHdSHELLcFOOTcC-SIMPLIFIED CARTcSIMPLIFIED WALKcWALK ONEdTWOcCITY
cC-SIMPLIFIED GOLDcLONG ONEdTWOcC-SIMPLIFIED LONGdGATEcMOUND ONEdTWOcRAINcBLUE
cC-SIMPLIFIED TANNED LEATHERdLEAFdWINDdFLYcEAT ONEdTWOdTHREEcC-SIMPLIFIED EATcHEAD
cC-SIMPLIFIED HORSEcBONEcGHOSTcC-SIMPLIFIED FISHdBIRDdSALTcSIMPLIFIED WHEATdYELLOW
cC-SIMPLIFIED FROGcJ-SIMPLIFIED EVENcC-SIMPLIFIED EVENcJ-SIMPLIFIED TOOTHcC-SIMPLIFIED TOOTH
cJ-SIMPLIFIED DRAGONcC-SIMPLIFIED DRAGONcTURTLEcJ-SIMPLIFIED TURTLEcC-SIMPLIFIED TURTLE:2F00
aKANGXI RADICAL ONEcLINEcDOTcSLASHcSECONDcHOOKcTWOcLIDcMANcLEGScENTERcEIGHTcDOWN BOXcCOVERcICE
cTABLEcOPEN BOXcKNIFEcPOWERcWRAPcSPOONcRIGHT OPEN BOXcHIDING ENCLOSUREcTENcDIVINATIONcSEALcCLIFF
cPRIVATEcAGAINcMOUTHcENCLOSUREcEARTHcSCHOLARcGOdSLOWLYcEVENINGcBIGcWOMANcCHILDcROOFcINCHcSMALL
cLAMEcCORPSEcSPROUTcMOUNTAINcRIVERcWORKcONESELFcTURBANcDRYcSHORT THREADcDOTTED CLIFFcLONG STRIDE
cTWO HANDScSHOOTcBOWcSNOUTcBRISTLEcSTEPcHEARTcHALBERDcDOORcHANDcBRANCHcRAPcSCRIPTcDIPPERcAXE
cSQUAREcNOTcSUNcSAYcMOONcTREEcLACKcSTOPcDEATHcWEAPONcDO NOTcCOMPAREcFURcCLANcSTEAMcWATERcFIREcCLAW
cFATHERcDOUBLE XcHALF TREE TRUNKcSLICEcFANGcCOWcDOGcPROFOUNDcJADEcMELONcTILEcSWEETcLIFEcUSEcFIELD
cBOLT OF CLOTHcSICKNESScDOTTED TENTcWHITEcSKINcDISHcEYEcSPEARcARROWcSTONEcSPIRITcTRACKcGRAINcCAVE
cSTANDcBAMBOOcRICEcSILKcJARcNETcSHEEPcFEATHERcOLDcANDcPLOWcEARcBRUSHcMEATcMINISTERcSELFcARRIVE
cMORTARcTONGUEcOPPOSEcBOATcSTOPPINGcCOLORcGRASScTIGERcINSECTcBLOODcWALK ENCLOSUREcCLOTHEScWESTcSEE
cHORNcSPEECHcVALLEYcBEANcPIGcBADGERcSHELLcREDcRUNcFOOTcBODYcCARTcBITTERcMORNINGcWALKcCITYcWINE
cDISTINGUISHcVILLAGEcGOLDcLONGcGATEcMOUNDcSLAVEcSHORT TAILED BIRDcRAINcBLUEcWRONGcFACEcLEATHER
cTANNED LEATHERcLEEKcSOUNDcLEAFcWINDcFLYcEATcHEADcFRAGRANTcHORSEcBONEcTALLcHAIRcFIGHT
cSACRIFICIAL WINEcCAULDRONcGHOSTcFISHcBIRDcSALTcDEERcWHEATcHEMPcYELLOWcMILLETcBLACKcEMBROIDERY
cFROGcTRIPODcDRUMcRATcNOSEcEVENcTOOTHcDRAGONcTURTLEcFLUTE:2FF0
aIDEOGRAPHIC DESCRIPTION CHARACTER LEFT TO RIGHTdABOVE TO BELOWdLEFT TO MIDDLE AND RIGHT
dABOVE TO MIDDLE AND BELOWdFULL SURROUNDdSURROUND FROM ABOVEfBELOWfLEFTfUPPER LEFTgRIGHT
fLOWER LEFTdOVERLAID"

end TicketMigration.CharacterName
