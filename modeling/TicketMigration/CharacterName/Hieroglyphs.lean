/-!
# Names of characters: hieroglyphs

Hieroglyphs and the syllabic scripts behind them.

## Main definitions

* `hieroglyphs` is the table.
-/

namespace TicketMigration.CharacterName

/-- The table.  Behind a colon stands the code of a character.  Each name begins with a small
letter, which says how many words it has in common with the name before, and is the name of the
next code. -/
def hieroglyphs : String :=
  ":13000aEGYPTIAN HIEROGLYPH A001cA002cA003cA004cA005cA005AcA006cA006AcA006BcA007cA008cA009cA010
cA011cA012cA013cA014cA014AcA015cA016cA017cA017AcA018cA019cA020cA021cA022cA023cA024cA025cA026cA027
cA028cA029cA030cA031cA032cA032AcA033cA034cA035cA036cA037cA038cA039cA040cA040AcA041cA042cA042AcA043
cA043AcA044cA045cA045AcA046cA047cA048cA049cA050cA051cA052cA053cA054cA055cA056cA057cA058cA059cA060
cA061cA062cA063cA064cA065cA066cA067cA068cA069cA070cB001cB002cB003cB004cB005cB005AcB006cB007cB008
cB009cC001cC002cC002AcC002BcC002CcC003cC004cC005cC006cC007cC008cC009cC010cC010AcC011cC012cC013
cC014cC015cC016cC017cC018cC019cC020cC021cC022cC023cC024cD001cD002cD003cD004cD005cD006cD007cD008
cD008AcD009cD010cD011cD012cD013cD014cD015cD016cD017cD018cD019cD020cD021cD022cD023cD024cD025cD026
cD027cD027AcD028cD029cD030cD031cD031AcD032cD033cD034cD034AcD035cD036cD037cD038cD039cD040cD041cD042
cD043cD044cD045cD046cD046AcD047cD048cD048AcD049cD050cD050AcD050BcD050CcD050DcD050EcD050FcD050G
cD050HcD050IcD051cD052cD052AcD053cD054cD054AcD055cD056cD057cD058cD059cD060cD061cD062cD063cD064
cD065cD066cD067cD067AcD067BcD067CcD067DcD067EcD067FcD067GcD067HcE001cE002cE003cE004cE005cE006cE007
cE008cE008AcE009cE009AcE010cE011cE012cE013cE014cE015cE016cE016AcE017cE017AcE018cE019cE020cE020A
cE021cE022cE023cE024cE025cE026cE027cE028cE028AcE029cE030cE031cE032cE033cE034cE034AcE036cE037cE038
cF001cF001AcF002cF003cF004cF005cF006cF007cF008cF009cF010cF011cF012cF013cF013AcF014cF015cF016cF017
cF018cF019cF020cF021cF021AcF022cF023cF024cF025cF026cF027cF028cF029cF030cF031cF031AcF032cF033cF034
cF035cF036cF037cF037AcF038cF038AcF039cF040cF041cF042cF043cF044cF045cF045AcF046cF046AcF047cF047A
cF048cF049cF050cF051cF051AcF051BcF051CcF052cF053cG001cG002cG003cG004cG005cG006cG006AcG007cG007A
cG007BcG008cG009cG010cG011cG011AcG012cG013cG014cG015cG016cG017cG018cG019cG020cG020AcG021cG022cG023
cG024cG025cG026cG026AcG027cG028cG029cG030cG031cG032cG033cG034cG035cG036cG036AcG037cG037AcG038cG039
cG040cG041cG042cG043cG043AcG044cG045cG045AcG046cG047cG048cG049cG050cG051cG052cG053cG054cH001cH002
cH003cH004cH005cH006cH006AcH007cH008cI001cI002cI003cI004cI005cI005AcI006cI007cI008cI009cI009AcI010
cI010AcI011cI011AcI012cI013cI014cI015cK001cK002cK003cK004cK005cK006cK007cK008cL001cL002cL002AcL003
cL004cL005cL006cL006AcL007cL008cM001cM001AcM001BcM002cM003cM003AcM004cM005cM006cM007cM008cM009
cM010cM010AcM011cM012cM012AcM012BcM012CcM012DcM012EcM012FcM012GcM012HcM013cM014cM015cM015AcM016
cM016AcM017cM017AcM018cM019cM020cM021cM022cM022AcM023cM024cM024AcM025cM026cM027cM028cM028AcM029
cM030cM031cM031AcM032cM033cM033AcM033BcM034cM035cM036cM037cM038cM039cM040cM040AcM041cM042cM043
cM044cN001cN002cN003cN004cN005cN006cN007cN008cN009cN010cN011cN012cN013cN014cN015cN016cN017cN018
cN018AcN018BcN019cN020cN021cN022cN023cN024cN025cN025AcN026cN027cN028cN029cN030cN031cN032cN033
cN033AcN034cN034AcN035cN035AcN036cN037cN037AcN038cN039cN040cN041cN042cNL001cNL002cNL003cNL004
cNL005cNL005AcNL006cNL007cNL008cNL009cNL010cNL011cNL012cNL013cNL014cNL015cNL016cNL017cNL017AcNL018
cNL019cNL020cNU001cNU002cNU003cNU004cNU005cNU006cNU007cNU008cNU009cNU010cNU010AcNU011cNU011AcNU012
cNU013cNU014cNU015cNU016cNU017cNU018cNU018AcNU019cNU020cNU021cNU022cNU022AcO001cO001AcO002cO003
cO004cO005cO005AcO006cO006AcO006BcO006CcO006DcO006EcO006FcO007cO008cO009cO010cO010AcO010BcO010C
cO011cO012cO013cO014cO015cO016cO017cO018cO019cO019AcO020cO020AcO021cO022cO023cO024cO024AcO025
cO025AcO026cO027cO028cO029cO029AcO030cO030AcO031cO032cO033cO033AcO034cO035cO036cO036AcO036BcO036C
cO036DcO037cO038cO039cO040cO041cO042cO043cO044cO045cO046cO047cO048cO049cO050cO050AcO050BcO051cP001
cP001AcP002cP003cP003AcP004cP005cP006cP007cP008cP009cP010cP011cQ001cQ002cQ003cQ004cQ005cQ006cQ007
cR001cR002cR002AcR003cR003AcR003BcR004cR005cR006cR007cR008cR009cR010cR010AcR011cR012cR013cR014
cR015cR016cR016AcR017cR018cR019cR020cR021cR022cR023cR024cR025cR026cR027cR028cR029cS001cS002cS002A
cS003cS004cS005cS006cS006AcS007cS008cS009cS010cS011cS012cS013cS014cS014AcS014BcS015cS016cS017
cS017AcS018cS019cS020cS021cS022cS023cS024cS025cS026cS026AcS026BcS027cS028cS029cS030cS031cS032cS033
cS034cS035cS035AcS036cS037cS038cS039cS040cS041cS042cS043cS044cS045cS046cT001cT002cT003cT003AcT004
cT005cT006cT007cT007AcT008cT008AcT009cT009AcT010cT011cT011AcT012cT013cT014cT015cT016cT016AcT017
cT018cT019cT020cT021cT022cT023cT024cT025cT026cT027cT028cT029cT030cT031cT032cT032AcT033cT033AcT034
cT035cT036cU001cU002cU003cU004cU005cU006cU006AcU006BcU007cU008cU009cU010cU011cU012cU013cU014cU015
cU016cU017cU018cU019cU020cU021cU022cU023cU023AcU024cU025cU026cU027cU028cU029cU029AcU030cU031cU032
cU032AcU033cU034cU035cU036cU037cU038cU039cU040cU041cU042cV001cV001AcV001BcV001CcV001DcV001EcV001F
cV001GcV001HcV001IcV002cV002AcV003cV004cV005cV006cV007cV007AcV007BcV008cV009cV010cV011cV011AcV011B
cV011CcV012cV012AcV012BcV013cV014cV015cV016cV017cV018cV019cV020cV020AcV020BcV020CcV020DcV020E
cV020FcV020GcV020HcV020IcV020JcV020KcV020LcV021cV022cV023cV023AcV024cV025cV026cV027cV028cV028A
cV029cV029AcV030cV030AcV031cV031AcV032cV033cV033AcV034cV035cV036cV037cV037AcV038cV039cV040cV040A
cW001cW002cW003cW003AcW004cW005cW006cW007cW008cW009cW009AcW010cW010AcW011cW012cW013cW014cW014A
cW015cW016cW017cW017AcW018cW018AcW019cW020cW021cW022cW023cW024cW024AcW025cX001cX002cX003cX004
cX004AcX004BcX005cX006cX006AcX007cX008cX008AcY001cY001AcY002cY003cY004cY005cY006cY007cY008cZ001
cZ002cZ002AcZ002BcZ002CcZ002DcZ003cZ003AcZ003BcZ004cZ004AcZ005cZ005AcZ006cZ007cZ008cZ009cZ010cZ011
cZ012cZ013cZ014cZ015cZ015AcZ015BcZ015CcZ015DcZ015EcZ015FcZ015GcZ015HcZ015IcZ016cZ016AcZ016BcZ016C
cZ016DcZ016EcZ016FcZ016GcZ016HcAA001cAA002cAA003cAA004cAA005cAA006cAA007cAA007AcAA007BcAA008cAA009
cAA010cAA011cAA012cAA013cAA014cAA015cAA016cAA017cAA018cAA019cAA020cAA021cAA022cAA023cAA024cAA025
cAA026cAA027cAA028cAA029cAA030cAA031cAA032:13430aEGYPTIAN HIEROGLYPH VERTICAL JOINER
cHORIZONTAL JOINERcINSERT AT TOP STARTeBOTTOM STARTeTOP ENDeBOTTOM ENDcOVERLAY MIDDLE
cBEGIN SEGMENTcEND SEGMENT:14400aANATOLIAN HIEROGLYPH A001cA002cA003cA004cA005cA006cA007cA008cA009
cA010cA010AcA011cA012cA013cA014cA015cA016cA017cA018cA019cA020cA021cA022cA023cA024cA025cA026cA026A
cA027cA028cA029cA030cA031cA032cA033cA034cA035cA036cA037cA038cA039cA039AcA040cA041cA041AcA042cA043
cA044cA045cA045AcA046cA046AcA046BcA047cA048cA049cA050cA051cA052cA053cA054cA055cA056cA057cA058cA059
cA060cA061cA062cA063cA064cA065cA066cA066AcA066BcA066CcA067cA068cA069cA070cA071cA072cA073cA074cA075
cA076cA077cA078cA079cA080cA081cA082cA083cA084cA085cA086cA087cA088cA089cA090cA091cA092cA093cA094
cA095cA096cA097cA097AcA098cA098AcA099cA100cA100AcA101cA101AcA102cA102AcA103cA104cA104AcA104BcA104C
cA105cA105AcA105BcA106cA107cA107AcA107BcA107CcA108cA109cA110cA110AcA110BcA111cA112cA113cA114cA115
cA115AcA116cA117cA118cA119cA120cA121cA122cA123cA124cA125cA125AcA126cA127cA128cA129cA130cA131cA132
cA133cA134cA135cA135AcA136cA137cA138cA139cA140cA141cA142cA143cA144cA145cA146cA147cA148cA149cA150
cA151cA152cA153cA154cA155cA156cA157cA158cA159cA160cA161cA162cA163cA164cA165cA166cA167cA168cA169
cA170cA171cA172cA173cA174cA175cA176cA177cA178cA179cA180cA181cA182cA183cA184cA185cA186cA187cA188
cA189cA190cA191cA192cA193cA194cA195cA196cA197cA198cA199cA200cA201cA202cA202AcA202BcA203cA204cA205
cA206cA207cA207AcA208cA209cA209AcA210cA211cA212cA213cA214cA215cA215AcA216cA216AcA217cA218cA219
cA220cA221cA222cA223cA224cA225cA226cA227cA227AcA228cA229cA230cA231cA232cA233cA234cA235cA236cA237
cA238cA239cA240cA241cA242cA243cA244cA245cA246cA247cA248cA249cA250cA251cA252cA253cA254cA255cA256
cA257cA258cA259cA260cA261cA262cA263cA264cA265cA266cA267cA267AcA268cA269cA270cA271cA272cA273cA274
cA275cA276cA277cA278cA279cA280cA281cA282cA283cA284cA285cA286cA287cA288cA289cA289AcA290cA291cA292
cA293cA294cA294AcA295cA296cA297cA298cA299cA299AcA300cA301cA302cA303cA304cA305cA306cA307cA308cA309
cA309AcA310cA311cA312cA313cA314cA315cA316cA317cA318cA319cA320cA321cA322cA323cA324cA325cA326cA327
cA328cA329cA329AcA330cA331cA332AcA332BcA332CcA333cA334cA335cA336cA336AcA336BcA336CcA337cA338cA339
cA340cA341cA342cA343cA344cA345cA346cA347cA348cA349cA350cA351cA352cA353cA354cA355cA356cA357cA358
cA359cA359AcA360cA361cA362cA363cA364cA364AcA365cA366cA367cA368cA368AcA369cA370cA371cA371AcA372
cA373cA374cA375cA376cA377cA378cA379cA380cA381cA381AcA382cA383 RA OR RIcA383AcA384cA385cA386cA386A
cA387cA388cA389cA390cA391cA392cA393 EIGHTcA394cA395cA396cA397cA398cA399cA400cA401cA402cA403cA404
cA405cA406cA407cA408cA409cA410 BEGIN LOGOGRAM MARKcA410A END LOGOGRAM MARKcA411cA412cA413cA414
cA415cA416cA417cA418cA419cA420cA421cA422cA423cA424cA425cA426cA427cA428cA429cA430cA431cA432cA433
cA434cA435cA436cA437cA438cA439cA440cA441cA442cA443cA444cA445cA446cA447cA448cA449cA450cA450AcA451
cA452cA453cA454cA455cA456cA457cA457AcA458cA459cA460cA461cA462cA463cA464cA465cA466cA467cA468cA469
cA470cA471cA472cA473cA474cA475cA476cA477cA478cA479cA480cA481cA482cA483cA484cA485cA486cA487cA488
cA489cA490cA491cA492cA493cA494cA495cA496cA497cA501cA502cA503cA504cA505cA506cA507cA508cA509cA510
cA511cA512cA513cA514cA515cA516cA517cA518cA519cA520cA521cA522cA523cA524cA525cA526cA527cA528cA529
cA530:16800aBAMUM LETTER PHASE-A NGKUE MFONdGBIEE FONdPON MFON PIPAEMGBIEEfPIPAEMBAdNAA MFON
dSHUENSHUETdTITA MFONdNZA MFONdSHINDA PA NJIdPON PA NJI PIPAEMGBIEEgPIPAEMBAdMAEMBGBIEEdTU MAEMBA
dNGANGUdMAEMVEUXdMANSUAEdMVEUAENGAMdSEUNYAMdNTOQPENdKEUKEUTNDAdNKINDIdSUUdNGKUENZEUMdLAPAQdLET KUT
dNTAP MFAAdMAEKEUPdPASHAEdGHEUAERAEdPAMSHAEdMON NGGEUAETdNZUN MEUTdU YUQ NAEdGHEUAEGHEUAE
dNTAP NTAAdSISAdMGBASAdMEUNJOMNDEUQdMOOMPUQdKAFAdPA LEERAEWAdNDA LEERAEWAdPETdMAEMKPENdNIKAdPUP
dTUAEPdLUAEPdSONJAMdTEUTEUWENdMAENYIdKETdNDAANGGEUAETdKUOQdMOOMEUTdSHUMdLOMMAEdFIRIdROMdKPOQdSOQ
dMAP PIEETdSHIRAEdNTAPdSHOQ NSHUT YUMdNYIT MONGKEUAEQdPAARAEdNKAARAEdUNKNOWNdNGGENdMAESIdNJAM
dMBANYIdNYETdTEUAENdSOTdPAAMdNSHIEEdMAEMdNYIdKAQdNSHAdVEEdLUdNENdNAQdMBAQcPHASE-B NSHUET
dTU MAEMGBIEEdSIEEdSET TUdLOM NTEUMdMBA MAELEEdKIEEMdYEURAEdMBAARAEdKAMdPEESHIdYAFU LEERAEWA
dLAM NSHUT NYAMdNTIEE SHEUOQdNDU NJAAdGHEUGHEUAEMdPITdTU NSIEEdSHET NJAQdSHEUAEQTUdMFON TEUAEQ
dMBIT MBAAKETdNYI NTEUMdKEUPUQdGHEUGHENdKEUYEUXdLAANAEdPARUMdVEUMdNGKINDI MVOPdNGGEU MBUdWUAET
dSAKEUAEdTAAMdMEUQdNGGUOQeLARGEdMFIYAQdSUEdMBEURIdMONTIEENdNYAEMAEdPUNGAAMdMEUT NGGEETdFEUXdMBUOQ
dFEEdKEUAEMdMA NJEUAENAeNJUQAdLETdNGGAAMdNSENdMAdKIQdNGOMcPHASE-C NGKUE MAEMBAdNZAdYUMdWANGKUOQ
dNGGENdNDEUAEREEdNGKAQdGHARAEdMBEEKEETdGBAYIdNYIR MKPARAQ MEUNdNTU MBITdMBEUMdPIRIEENdNDOMBU
dMBAA CABBAGE-TREEdKEUSHEUAEPdGHAPdKEUKAQdYU MUOMAEdNZEUMdMBUEdNSEUAENdMBITdYEUQdKPARAQdKAAdSEUX
dNDIDAdTAASHAEdNJUEQdTITA YUEdSUAETdNGGUAEN NYAMdVEUXdNANSANAQdMA KEUAERIdNTAAdNGGUONdLAPdMBIRIEEN
dMGBASAQdNTEUNGBAdTEUTEUXdNGGUMdFUEdNDEUTdNSAdNSHAQdBUNGdVEUAEPENdMBERAEdRUdNJAEMdLAMdTITUAEP
dNSUOT NGOMdNJEEEEdKETdNGGUdMAESIdMBUAEMdLUdKUTdNJAMdNGOMdWUPdNGGUEETdNSOMdNTENdKUOP NKAARAEdNSUN
dNDAMdMA NSIEEdYAAdNDAPdSHUEQdSETFONdMBIdMAEMBAdMBANYIdKEUSEUXdMBEUXdKEUMdMBAA PICKETdYUWOQdNJEUX
dMIEEdMUAEdSHIQdKEN LAWeFATIGUEdNGAQdNAQdLIQdPINdPENdTETcPHASE-D MBUOdWAPdNJIdMFONdNJIEEdLIEE
dNJEUTdNSHEEdNGGAAMAEdNYAMdWUAENdNGKUNdSHEEdNGKAPdKEUAETMEUNdTEUTdSHEUAEdNJAPdSUEdKETdYAEMMAEdKUOM
dSAPdMFEUTdNDEUXdMALEERIdMEUTdSEUAEQdYENdNJEUAEMdKEUOT MBUAEdNGKEURIdTUdGHAAdNGKYEEdFEUFEUAETdNDEE
dMGBOFUMdLEUAEPdNDONdMONIdMGBEUNdPUUTdMGBIEEdMFOdLUMdNSIEEPdMBAAdKWAETdNYETdTEUAENdSOTdYUWOQdKEUM
dRAEMdTEEEEdNGKEUAEQdMFEUAEdNSIEETdKEUPdPIPdPEUTAEdNYUEdLETdNGGAAMdMFIEEdNGGWAENdYUOMdPAPdYUOP
dNDAMdNTEUMdSUAEdKUNdNGGEUXdNGKIEEdTUOTdMEUNdKUQdNSUMdTEUNdMAENJETdNGGAPdLEUMdNGGUOMdNSHUTdNJUEQ
dGHEUAEdKUdREN OLDdTAEdTOQdNYIdRIIdLEEEEdMEEEEdMdSUUdMUdSHIIdSHEUXdKYEEdNUdSHUdNTEEdPEEdNIdSHOQ
dPUQdMVOPdLOQdREN MUCHdTIdNTUUdMBAA SEVENdSAQdFAAcPHASE-E NDAPdTOONdMBEUMdLAPdVOMdLOONdPAAdSOMdRAQ
dNSHUOPdNDUNdPUAEdTAMdNGKAdKPEUXdWUOdSEEdNGGEUAETdPAAMdTOOdKUOPdLOMdNSHIEEdNGOPdMAEMdNGKEUXdNGOQ
dNSHUEdRIMGBAdNJEUXdPEEMdSAAdNGGURAEdMGBAdGHEUXdNGKEUAEMdNJAEMLIdMAPdLOOTdNGGEEEEdNDIQdTAEN NTEUM
dSETdPUMdNDAA SOFTNESSdNGGUAESHAE NYAMdYIEEdGHEUNdTUAEdYEUAEdPOdTUMAEdKEUAEdSUAENdTEUAEQdVEUAE
dWEUXdLAAMdPUdTAAQdGHAAMAEdNGEUREUTdSHEUAEQdMGBENdMBEEdNZAQdNKOMdGBETdTUMdKUETdYAPdNYI CLEAVERdYIT
dMFEUQdNDIAQdPIEEQdYUEQdLEUAEMdFUEdGBEUXdNGKUPdKETdMAEdNGKAAMIdGHETdFAdNTUMdPEUTdYEUMdNGGEUAE
dNYI BETWEENdNZUQdPOONdMIEEdFUETdNAEdMUAEdGHEUAEdFU IdMVIdPUAQdNGKUMdKUTdPIETdNTAPdYEUAETdNGGUP
dPA PEOPLEdFU CALLdFOMdNJEEdAdTOQdOdIdLAQdPA PLURALdTAAdTAQdNDAA MY HOUSEdSHIQdYEUXdNGUAEdYUAEN
dYOQ SWIMMINGeCOVERdYUQdYUNdKEUXdPEUXdNJEE EPOCHdPUEdWUEdFEEdVEEdLUdMIdREUXdRAEdNGUAETdNGAdSHO
dSHOQdFU REMEDYdNAdPIdLOQdKOdMENdMAdMAQdTEUdKIdMONdTENdFAQdGHOMcPHASE-F KAdUdKUdEEdREEdTAEdNYIdLA
dRIIdRIEEdMEEEEdTAAdNDAAdNJAEMdMdSUUdSHIIdSIdSEUXdKYEEdKETdNUAEdNUdNJUAEdYOQdSHUdYAdNSHAdPEUXdNTEE
dWUEdPEEdRUdNIdREUXdKENdNGKWAENdNGGAdSHOdPUAEdFOMdWAdLIdLOQdKOdMBENdRENdMAdMOdMBAAdTETdKPAdSAMBA
dVUEQ:16A40aMRO LETTER TAcNGIcYOcMIMcBAcDAcAcPHIcKHAIcHAOcDAIcCHUcKEAAEcOLcMAEMcNINcPAcOOcOcROcSHI
cTHEAcEAcWAcEcKOcLANcLAcHAIcRIcTEK:16A60aMRO DIGIT ZEROcONEcTWOcTHREEcFOURcFIVEcSIXcSEVENcEIGHT
cNINE:16A6EaMRO DANDAbDOUBLE DANDAaTANGSA LETTER OZcOCcOQcOXcAZcACcAQcAXcVZcVCcVQcVXcEZcECcEQcEX
cIZcICcIQcIXcUZcUCcUQcUXcAWZcAWCcAWQcAWXcUIZcUICcUIQcUIXcFINAL NGcLONG UEXcSHORT UEZdAWXcUECcUEZ
cUEQcUEXcUIUZcUIUCcUIUQcUIUXcMZcMCcMQcMXcKAcKHAcGAcNGAcSAcYAcWAcPAcNYAcPHAcBAcMAcNAcHAcLAcHTAcTA
cDAcRAcNHAcSHAcCAcTSAcGHAcHTTAcTHAcXAcFAcDHAcCHAcZA:16AC0aTANGSA DIGIT ZEROcONEcTWOcTHREEcFOUR
cFIVEcSIXcSEVENcEIGHTcNINE:16AD0aBASSA VAH LETTER ENNIdKAdSEdFAdMBEdYIEdGAHdDHIIdKPAHdJOdHWAHdWA
dZOdGBUdDOdCEdUWUdTOdBAdVUdYEINdPAdWADDAdAdOdOOdUdEEdEdI:16AF0aBASSA VAH COMBINING HIGH TONE
dLOW TONEdMID TONEdLOW-MID TONEdHIGH-LOW TONEcFULL STOP:16B00aPAHAWH HMONG VOWEL KEEBdKEEVdKIBdKIV
dKAUBdKAUVdKUBdKUVdKEBdKEVdKAIBdKAIVdKOOBdKOOVdKAWBdKAWVdKUABdKUAVdKOBdKOVdKIABdKIAVdKABdKAVdKWB
dKWVdKAABdKAAVcCONSONANT VAUdNTSAUdLAUdHAUdNLAUdRAUdNKAUdQHAUdYAUdHLAUdMAUdCHAUdNCHAUdHNAUdPLHAU
dNTHAUdNAUdAUdXAUdCAUcMARK CIM TUBeSOeKESeKHAVeSUAMeHOMeTAUMcSIGN VOS THOMeTSHAB CEEBdCIM CHEEM
dVOS THIABeFEEMdXYEEM NTXIVeRHOeTOVeFAIBdVOS SEEVdMEEJ SUABdVOS NRUAdIB YAMdXAUSdCIM TSOV ROG
:16B50aPAHAWH HMONG DIGIT ZEROdONEdTWOdTHREEdFOURdFIVEdSIXdSEVENdEIGHTdNINE:16B5B
aPAHAWH HMONG NUMBER TENSdHUNDREDSdTEN THOUSANDSdMILLIONSdHUNDRED MILLIONSdTEN BILLIONSdTRILLIONS
:16B63aPAHAWH HMONG SIGN VOS LUBdXYOOdHLIdTHIRD-STAGE HLIdZWJ THAJdHNUBdNQIGdXIABdNTUJdAV
dTXHEEJ CEEVdMEEJ TSEEBdTAUdLOSdMUSdCIM HAIS LUS NTOG NTOGeCUAM TSHOOJeTXWVfCHWVePUB DAWBeNRES TOS
:16B7DaPAHAWH HMONG CLAN SIGN TSHEEJeYEEGeLISeLAUJeXYOOJeKOOeHAWJeMUASeTHOJeTSABePHABeKHABeHAMeVAJ
eFAJeYAJeTSWBeKWMeVWJ:16E40aMEDEFAIDRIN CAPITAL LETTER MdSdVdWdATIUdZdKPdPdTdGdFdIdKdAdJdEdBdCdU
dYUdLdQdHPdNYdXdDdOEdNdRdOdAIdYbSMALL LETTER MdSdVdWdATIUdZdKPdPdTdGdFdIdKdAdJdEdBdCdUdYUdLdQdHP
dNYdXdDdOEdNdRdOdAIdYbDIGIT ZEROcONEcTWOcTHREEcFOURcFIVEcSIXcSEVENcEIGHTcNINEbNUMBER TENcELEVEN
cTWELVEcTHIRTEENcFOURTEENcFIFTEENcSIXTEENcSEVENTEENcEIGHTEENcNINETEENbDIGIT ONE ALTERNATE FORM
cTWO ALTERNATE FORMcTHREE ALTERNATE FORMbCOMMAbFULL STOPbSYMBOL AIVAbEXCLAMATION OH:16F00
aMIAO LETTER PAcBAcYI PAcPLAcMAcMHAcARCHAIC MAcFAcVAcVFAcTAcDAcYI TTAdTAcTTAcDDAcNAcNHAcYI NNA
cARCHAIC NAcNNAcNNHAcLAcLYAcLHAcLHYAcTLHAcDLHAcTLHYAcDLHYAcKAcGAcYI KAcQAcQGAcNGAcNGHAcARCHAIC NGA
cHAcXAcGHAcGHHAcTSSAcDZZAcNYAcNYHAcTSHAcDZHAcYI TSHAdDZHAcREFORMED TSHAcSHAcSSAcZHAcZSHAcTSAcDZA
cYI TSAcSAcZAcZSAcZZAcZZSAcARCHAIC ZZAcZZYAcZZSYAcWAcAHcHHAcBRIcSYIcDZYIcTEcTSEcRTE:16F4F
aMIAO SIGN CONSONANT MODIFIER BARbLETTER NASALIZATIONbSIGN ASPIRATIONcREFORMED VOICINGdASPIRATION
bVOWEL SIGN AdAAdAHHdANdANGdOdOOdWOdWdEdENdENGdOEYdIdIAdIANdIANGdIOdIEdIIdIUdINGdUdUAdUANdUANGdUU
dUEIdUNGdYdYIdAEdAEEdERRdROUNDED ERRdERdROUNDED ERdAIdEIdAUdOUdNdNGdUOGdYUIdOGdOERdVWdIGdEAdIONG
dUI:16F8FaMIAO TONE RIGHTcTOP RIGHTcABOVEcBELOWbLETTER TONE-2cTONE-3cTONE-4cTONE-5cTONE-6cTONE-7
cTONE-8cREFORMED TONE-1dTONE-2dTONE-4dTONE-5dTONE-6dTONE-8:16FE0aTANGUT ITERATION MARK
aNUSHU ITERATION MARKaOLD CHINESE HOOK MARKcITERATION MARKaKHITAN SMALL SCRIPT FILLER:16FF0
aVIETNAMESE ALTERNATE READING MARK CAeNHAY:18800aTANGUT COMPONENT-001bCOMPONENT-002bCOMPONENT-003
bCOMPONENT-004bCOMPONENT-005bCOMPONENT-006bCOMPONENT-007bCOMPONENT-008bCOMPONENT-009bCOMPONENT-010
bCOMPONENT-011bCOMPONENT-012bCOMPONENT-013bCOMPONENT-014bCOMPONENT-015bCOMPONENT-016bCOMPONENT-017
bCOMPONENT-018bCOMPONENT-019bCOMPONENT-020bCOMPONENT-021bCOMPONENT-022bCOMPONENT-023bCOMPONENT-024
bCOMPONENT-025bCOMPONENT-026bCOMPONENT-027bCOMPONENT-028bCOMPONENT-029bCOMPONENT-030bCOMPONENT-031
bCOMPONENT-032bCOMPONENT-033bCOMPONENT-034bCOMPONENT-035bCOMPONENT-036bCOMPONENT-037bCOMPONENT-038
bCOMPONENT-039bCOMPONENT-040bCOMPONENT-041bCOMPONENT-042bCOMPONENT-043bCOMPONENT-044bCOMPONENT-045
bCOMPONENT-046bCOMPONENT-047bCOMPONENT-048bCOMPONENT-049bCOMPONENT-050bCOMPONENT-051bCOMPONENT-052
bCOMPONENT-053bCOMPONENT-054bCOMPONENT-055bCOMPONENT-056bCOMPONENT-057bCOMPONENT-058bCOMPONENT-059
bCOMPONENT-060bCOMPONENT-061bCOMPONENT-062bCOMPONENT-063bCOMPONENT-064bCOMPONENT-065bCOMPONENT-066
bCOMPONENT-067bCOMPONENT-068bCOMPONENT-069bCOMPONENT-070bCOMPONENT-071bCOMPONENT-072bCOMPONENT-073
bCOMPONENT-074bCOMPONENT-075bCOMPONENT-076bCOMPONENT-077bCOMPONENT-078bCOMPONENT-079bCOMPONENT-080
bCOMPONENT-081bCOMPONENT-082bCOMPONENT-083bCOMPONENT-084bCOMPONENT-085bCOMPONENT-086bCOMPONENT-087
bCOMPONENT-088bCOMPONENT-089bCOMPONENT-090bCOMPONENT-091bCOMPONENT-092bCOMPONENT-093bCOMPONENT-094
bCOMPONENT-095bCOMPONENT-096bCOMPONENT-097bCOMPONENT-098bCOMPONENT-099bCOMPONENT-100bCOMPONENT-101
bCOMPONENT-102bCOMPONENT-103bCOMPONENT-104bCOMPONENT-105bCOMPONENT-106bCOMPONENT-107bCOMPONENT-108
bCOMPONENT-109bCOMPONENT-110bCOMPONENT-111bCOMPONENT-112bCOMPONENT-113bCOMPONENT-114bCOMPONENT-115
bCOMPONENT-116bCOMPONENT-117bCOMPONENT-118bCOMPONENT-119bCOMPONENT-120bCOMPONENT-121bCOMPONENT-122
bCOMPONENT-123bCOMPONENT-124bCOMPONENT-125bCOMPONENT-126bCOMPONENT-127bCOMPONENT-128bCOMPONENT-129
bCOMPONENT-130bCOMPONENT-131bCOMPONENT-132bCOMPONENT-133bCOMPONENT-134bCOMPONENT-135bCOMPONENT-136
bCOMPONENT-137bCOMPONENT-138bCOMPONENT-139bCOMPONENT-140bCOMPONENT-141bCOMPONENT-142bCOMPONENT-143
bCOMPONENT-144bCOMPONENT-145bCOMPONENT-146bCOMPONENT-147bCOMPONENT-148bCOMPONENT-149bCOMPONENT-150
bCOMPONENT-151bCOMPONENT-152bCOMPONENT-153bCOMPONENT-154bCOMPONENT-155bCOMPONENT-156bCOMPONENT-157
bCOMPONENT-158bCOMPONENT-159bCOMPONENT-160bCOMPONENT-161bCOMPONENT-162bCOMPONENT-163bCOMPONENT-164
bCOMPONENT-165bCOMPONENT-166bCOMPONENT-167bCOMPONENT-168bCOMPONENT-169bCOMPONENT-170bCOMPONENT-171
bCOMPONENT-172bCOMPONENT-173bCOMPONENT-174bCOMPONENT-175bCOMPONENT-176bCOMPONENT-177bCOMPONENT-178
bCOMPONENT-179bCOMPONENT-180bCOMPONENT-181bCOMPONENT-182bCOMPONENT-183bCOMPONENT-184bCOMPONENT-185
bCOMPONENT-186bCOMPONENT-187bCOMPONENT-188bCOMPONENT-189bCOMPONENT-190bCOMPONENT-191bCOMPONENT-192
bCOMPONENT-193bCOMPONENT-194bCOMPONENT-195bCOMPONENT-196bCOMPONENT-197bCOMPONENT-198bCOMPONENT-199
bCOMPONENT-200bCOMPONENT-201bCOMPONENT-202bCOMPONENT-203bCOMPONENT-204bCOMPONENT-205bCOMPONENT-206
bCOMPONENT-207bCOMPONENT-208bCOMPONENT-209bCOMPONENT-210bCOMPONENT-211bCOMPONENT-212bCOMPONENT-213
bCOMPONENT-214bCOMPONENT-215bCOMPONENT-216bCOMPONENT-217bCOMPONENT-218bCOMPONENT-219bCOMPONENT-220
bCOMPONENT-221bCOMPONENT-222bCOMPONENT-223bCOMPONENT-224bCOMPONENT-225bCOMPONENT-226bCOMPONENT-227
bCOMPONENT-228bCOMPONENT-229bCOMPONENT-230bCOMPONENT-231bCOMPONENT-232bCOMPONENT-233bCOMPONENT-234
bCOMPONENT-235bCOMPONENT-236bCOMPONENT-237bCOMPONENT-238bCOMPONENT-239bCOMPONENT-240bCOMPONENT-241
bCOMPONENT-242bCOMPONENT-243bCOMPONENT-244bCOMPONENT-245bCOMPONENT-246bCOMPONENT-247bCOMPONENT-248
bCOMPONENT-249bCOMPONENT-250bCOMPONENT-251bCOMPONENT-252bCOMPONENT-253bCOMPONENT-254bCOMPONENT-255
bCOMPONENT-256bCOMPONENT-257bCOMPONENT-258bCOMPONENT-259bCOMPONENT-260bCOMPONENT-261bCOMPONENT-262
bCOMPONENT-263bCOMPONENT-264bCOMPONENT-265bCOMPONENT-266bCOMPONENT-267bCOMPONENT-268bCOMPONENT-269
bCOMPONENT-270bCOMPONENT-271bCOMPONENT-272bCOMPONENT-273bCOMPONENT-274bCOMPONENT-275bCOMPONENT-276
bCOMPONENT-277bCOMPONENT-278bCOMPONENT-279bCOMPONENT-280bCOMPONENT-281bCOMPONENT-282bCOMPONENT-283
bCOMPONENT-284bCOMPONENT-285bCOMPONENT-286bCOMPONENT-287bCOMPONENT-288bCOMPONENT-289bCOMPONENT-290
bCOMPONENT-291bCOMPONENT-292bCOMPONENT-293bCOMPONENT-294bCOMPONENT-295bCOMPONENT-296bCOMPONENT-297
bCOMPONENT-298bCOMPONENT-299bCOMPONENT-300bCOMPONENT-301bCOMPONENT-302bCOMPONENT-303bCOMPONENT-304
bCOMPONENT-305bCOMPONENT-306bCOMPONENT-307bCOMPONENT-308bCOMPONENT-309bCOMPONENT-310bCOMPONENT-311
bCOMPONENT-312bCOMPONENT-313bCOMPONENT-314bCOMPONENT-315bCOMPONENT-316bCOMPONENT-317bCOMPONENT-318
bCOMPONENT-319bCOMPONENT-320bCOMPONENT-321bCOMPONENT-322bCOMPONENT-323bCOMPONENT-324bCOMPONENT-325
bCOMPONENT-326bCOMPONENT-327bCOMPONENT-328bCOMPONENT-329bCOMPONENT-330bCOMPONENT-331bCOMPONENT-332
bCOMPONENT-333bCOMPONENT-334bCOMPONENT-335bCOMPONENT-336bCOMPONENT-337bCOMPONENT-338bCOMPONENT-339
bCOMPONENT-340bCOMPONENT-341bCOMPONENT-342bCOMPONENT-343bCOMPONENT-344bCOMPONENT-345bCOMPONENT-346
bCOMPONENT-347bCOMPONENT-348bCOMPONENT-349bCOMPONENT-350bCOMPONENT-351bCOMPONENT-352bCOMPONENT-353
bCOMPONENT-354bCOMPONENT-355bCOMPONENT-356bCOMPONENT-357bCOMPONENT-358bCOMPONENT-359bCOMPONENT-360
bCOMPONENT-361bCOMPONENT-362bCOMPONENT-363bCOMPONENT-364bCOMPONENT-365bCOMPONENT-366bCOMPONENT-367
bCOMPONENT-368bCOMPONENT-369bCOMPONENT-370bCOMPONENT-371bCOMPONENT-372bCOMPONENT-373bCOMPONENT-374
bCOMPONENT-375bCOMPONENT-376bCOMPONENT-377bCOMPONENT-378bCOMPONENT-379bCOMPONENT-380bCOMPONENT-381
bCOMPONENT-382bCOMPONENT-383bCOMPONENT-384bCOMPONENT-385bCOMPONENT-386bCOMPONENT-387bCOMPONENT-388
bCOMPONENT-389bCOMPONENT-390bCOMPONENT-391bCOMPONENT-392bCOMPONENT-393bCOMPONENT-394bCOMPONENT-395
bCOMPONENT-396bCOMPONENT-397bCOMPONENT-398bCOMPONENT-399bCOMPONENT-400bCOMPONENT-401bCOMPONENT-402
bCOMPONENT-403bCOMPONENT-404bCOMPONENT-405bCOMPONENT-406bCOMPONENT-407bCOMPONENT-408bCOMPONENT-409
bCOMPONENT-410bCOMPONENT-411bCOMPONENT-412bCOMPONENT-413bCOMPONENT-414bCOMPONENT-415bCOMPONENT-416
bCOMPONENT-417bCOMPONENT-418bCOMPONENT-419bCOMPONENT-420bCOMPONENT-421bCOMPONENT-422bCOMPONENT-423
bCOMPONENT-424bCOMPONENT-425bCOMPONENT-426bCOMPONENT-427bCOMPONENT-428bCOMPONENT-429bCOMPONENT-430
bCOMPONENT-431bCOMPONENT-432bCOMPONENT-433bCOMPONENT-434bCOMPONENT-435bCOMPONENT-436bCOMPONENT-437
bCOMPONENT-438bCOMPONENT-439bCOMPONENT-440bCOMPONENT-441bCOMPONENT-442bCOMPONENT-443bCOMPONENT-444
bCOMPONENT-445bCOMPONENT-446bCOMPONENT-447bCOMPONENT-448bCOMPONENT-449bCOMPONENT-450bCOMPONENT-451
bCOMPONENT-452bCOMPONENT-453bCOMPONENT-454bCOMPONENT-455bCOMPONENT-456bCOMPONENT-457bCOMPONENT-458
bCOMPONENT-459bCOMPONENT-460bCOMPONENT-461bCOMPONENT-462bCOMPONENT-463bCOMPONENT-464bCOMPONENT-465
bCOMPONENT-466bCOMPONENT-467bCOMPONENT-468bCOMPONENT-469bCOMPONENT-470bCOMPONENT-471bCOMPONENT-472
bCOMPONENT-473bCOMPONENT-474bCOMPONENT-475bCOMPONENT-476bCOMPONENT-477bCOMPONENT-478bCOMPONENT-479
bCOMPONENT-480bCOMPONENT-481bCOMPONENT-482bCOMPONENT-483bCOMPONENT-484bCOMPONENT-485bCOMPONENT-486
bCOMPONENT-487bCOMPONENT-488bCOMPONENT-489bCOMPONENT-490bCOMPONENT-491bCOMPONENT-492bCOMPONENT-493
bCOMPONENT-494bCOMPONENT-495bCOMPONENT-496bCOMPONENT-497bCOMPONENT-498bCOMPONENT-499bCOMPONENT-500
bCOMPONENT-501bCOMPONENT-502bCOMPONENT-503bCOMPONENT-504bCOMPONENT-505bCOMPONENT-506bCOMPONENT-507
bCOMPONENT-508bCOMPONENT-509bCOMPONENT-510bCOMPONENT-511bCOMPONENT-512bCOMPONENT-513bCOMPONENT-514
bCOMPONENT-515bCOMPONENT-516bCOMPONENT-517bCOMPONENT-518bCOMPONENT-519bCOMPONENT-520bCOMPONENT-521
bCOMPONENT-522bCOMPONENT-523bCOMPONENT-524bCOMPONENT-525bCOMPONENT-526bCOMPONENT-527bCOMPONENT-528
bCOMPONENT-529bCOMPONENT-530bCOMPONENT-531bCOMPONENT-532bCOMPONENT-533bCOMPONENT-534bCOMPONENT-535
bCOMPONENT-536bCOMPONENT-537bCOMPONENT-538bCOMPONENT-539bCOMPONENT-540bCOMPONENT-541bCOMPONENT-542
bCOMPONENT-543bCOMPONENT-544bCOMPONENT-545bCOMPONENT-546bCOMPONENT-547bCOMPONENT-548bCOMPONENT-549
bCOMPONENT-550bCOMPONENT-551bCOMPONENT-552bCOMPONENT-553bCOMPONENT-554bCOMPONENT-555bCOMPONENT-556
bCOMPONENT-557bCOMPONENT-558bCOMPONENT-559bCOMPONENT-560bCOMPONENT-561bCOMPONENT-562bCOMPONENT-563
bCOMPONENT-564bCOMPONENT-565bCOMPONENT-566bCOMPONENT-567bCOMPONENT-568bCOMPONENT-569bCOMPONENT-570
bCOMPONENT-571bCOMPONENT-572bCOMPONENT-573bCOMPONENT-574bCOMPONENT-575bCOMPONENT-576bCOMPONENT-577
bCOMPONENT-578bCOMPONENT-579bCOMPONENT-580bCOMPONENT-581bCOMPONENT-582bCOMPONENT-583bCOMPONENT-584
bCOMPONENT-585bCOMPONENT-586bCOMPONENT-587bCOMPONENT-588bCOMPONENT-589bCOMPONENT-590bCOMPONENT-591
bCOMPONENT-592bCOMPONENT-593bCOMPONENT-594bCOMPONENT-595bCOMPONENT-596bCOMPONENT-597bCOMPONENT-598
bCOMPONENT-599bCOMPONENT-600bCOMPONENT-601bCOMPONENT-602bCOMPONENT-603bCOMPONENT-604bCOMPONENT-605
bCOMPONENT-606bCOMPONENT-607bCOMPONENT-608bCOMPONENT-609bCOMPONENT-610bCOMPONENT-611bCOMPONENT-612
bCOMPONENT-613bCOMPONENT-614bCOMPONENT-615bCOMPONENT-616bCOMPONENT-617bCOMPONENT-618bCOMPONENT-619
bCOMPONENT-620bCOMPONENT-621bCOMPONENT-622bCOMPONENT-623bCOMPONENT-624bCOMPONENT-625bCOMPONENT-626
bCOMPONENT-627bCOMPONENT-628bCOMPONENT-629bCOMPONENT-630bCOMPONENT-631bCOMPONENT-632bCOMPONENT-633
bCOMPONENT-634bCOMPONENT-635bCOMPONENT-636bCOMPONENT-637bCOMPONENT-638bCOMPONENT-639bCOMPONENT-640
bCOMPONENT-641bCOMPONENT-642bCOMPONENT-643bCOMPONENT-644bCOMPONENT-645bCOMPONENT-646bCOMPONENT-647
bCOMPONENT-648bCOMPONENT-649bCOMPONENT-650bCOMPONENT-651bCOMPONENT-652bCOMPONENT-653bCOMPONENT-654
bCOMPONENT-655bCOMPONENT-656bCOMPONENT-657bCOMPONENT-658bCOMPONENT-659bCOMPONENT-660bCOMPONENT-661
bCOMPONENT-662bCOMPONENT-663bCOMPONENT-664bCOMPONENT-665bCOMPONENT-666bCOMPONENT-667bCOMPONENT-668
bCOMPONENT-669bCOMPONENT-670bCOMPONENT-671bCOMPONENT-672bCOMPONENT-673bCOMPONENT-674bCOMPONENT-675
bCOMPONENT-676bCOMPONENT-677bCOMPONENT-678bCOMPONENT-679bCOMPONENT-680bCOMPONENT-681bCOMPONENT-682
bCOMPONENT-683bCOMPONENT-684bCOMPONENT-685bCOMPONENT-686bCOMPONENT-687bCOMPONENT-688bCOMPONENT-689
bCOMPONENT-690bCOMPONENT-691bCOMPONENT-692bCOMPONENT-693bCOMPONENT-694bCOMPONENT-695bCOMPONENT-696
bCOMPONENT-697bCOMPONENT-698bCOMPONENT-699bCOMPONENT-700bCOMPONENT-701bCOMPONENT-702bCOMPONENT-703
bCOMPONENT-704bCOMPONENT-705bCOMPONENT-706bCOMPONENT-707bCOMPONENT-708bCOMPONENT-709bCOMPONENT-710
bCOMPONENT-711bCOMPONENT-712bCOMPONENT-713bCOMPONENT-714bCOMPONENT-715bCOMPONENT-716bCOMPONENT-717
bCOMPONENT-718bCOMPONENT-719bCOMPONENT-720bCOMPONENT-721bCOMPONENT-722bCOMPONENT-723bCOMPONENT-724
bCOMPONENT-725bCOMPONENT-726bCOMPONENT-727bCOMPONENT-728bCOMPONENT-729bCOMPONENT-730bCOMPONENT-731
bCOMPONENT-732bCOMPONENT-733bCOMPONENT-734bCOMPONENT-735bCOMPONENT-736bCOMPONENT-737bCOMPONENT-738
bCOMPONENT-739bCOMPONENT-740bCOMPONENT-741bCOMPONENT-742bCOMPONENT-743bCOMPONENT-744bCOMPONENT-745
bCOMPONENT-746bCOMPONENT-747bCOMPONENT-748bCOMPONENT-749bCOMPONENT-750bCOMPONENT-751bCOMPONENT-752
bCOMPONENT-753bCOMPONENT-754bCOMPONENT-755bCOMPONENT-756bCOMPONENT-757bCOMPONENT-758bCOMPONENT-759
bCOMPONENT-760bCOMPONENT-761bCOMPONENT-762bCOMPONENT-763bCOMPONENT-764bCOMPONENT-765bCOMPONENT-766
bCOMPONENT-767bCOMPONENT-768:1AFF0aKATAKANA LETTER MINNAN TONE-2dTONE-3dTONE-4dTONE-5:1AFF5
aKATAKANA LETTER MINNAN TONE-7dTONE-8dNASALIZED TONE-1eTONE-2eTONE-3eTONE-4eTONE-5:1AFFD
aKATAKANA LETTER MINNAN NASALIZED TONE-7eTONE-8:1B000aKATAKANA LETTER ARCHAIC E
aHIRAGANA LETTER ARCHAIC YEaHENTAIGANA LETTER A-1cA-2cA-3cA-WOcI-1cI-2cI-3cI-4cU-1cU-2cU-3cU-4cU-5
cE-2cE-3cE-4cE-5cE-6cO-1cO-2cO-3cKA-1cKA-2cKA-3cKA-4cKA-5cKA-6cKA-7cKA-8cKA-9cKA-10cKA-11cKA-KE
cKI-1cKI-2cKI-3cKI-4cKI-5cKI-6cKI-7cKI-8cKU-1cKU-2cKU-3cKU-4cKU-5cKU-6cKU-7cKE-1cKE-2cKE-3cKE-4
cKE-5cKE-6cKO-1cKO-2cKO-3cKO-KIcSA-1cSA-2cSA-3cSA-4cSA-5cSA-6cSA-7cSA-8cSI-1cSI-2cSI-3cSI-4cSI-5
cSI-6cSU-1cSU-2cSU-3cSU-4cSU-5cSU-6cSU-7cSU-8cSE-1cSE-2cSE-3cSE-4cSE-5cSO-1cSO-2cSO-3cSO-4cSO-5
cSO-6cSO-7cTA-1cTA-2cTA-3cTA-4cTI-1cTI-2cTI-3cTI-4cTI-5cTI-6cTI-7cTU-1cTU-2cTU-3cTU-4cTU-TOcTE-1
cTE-2cTE-3cTE-4cTE-5cTE-6cTE-7cTE-8cTE-9cTO-1cTO-2cTO-3cTO-4cTO-5cTO-6cTO-RAcNA-1cNA-2cNA-3cNA-4
cNA-5cNA-6cNA-7cNA-8cNA-9cNI-1cNI-2cNI-3cNI-4cNI-5cNI-6cNI-7cNI-TEcNU-1cNU-2cNU-3cNE-1cNE-2cNE-3
cNE-4cNE-5cNE-6cNE-KOcNO-1cNO-2cNO-3cNO-4cNO-5cHA-1cHA-2cHA-3cHA-4cHA-5cHA-6cHA-7cHA-8cHA-9cHA-10
cHA-11cHI-1cHI-2cHI-3cHI-4cHI-5cHI-6cHI-7cHU-1cHU-2cHU-3cHE-1cHE-2cHE-3cHE-4cHE-5cHE-6cHE-7cHO-1
cHO-2cHO-3cHO-4cHO-5cHO-6cHO-7cHO-8cMA-1cMA-2cMA-3cMA-4cMA-5cMA-6cMA-7cMI-1cMI-2cMI-3cMI-4cMI-5
cMI-6cMI-7cMU-1cMU-2cMU-3cMU-4cME-1cME-2cME-MAcMO-1cMO-2cMO-3cMO-4cMO-5cMO-6cYA-1cYA-2cYA-3cYA-4
cYA-5cYA-YOcYU-1cYU-2cYU-3cYU-4cYO-1cYO-2cYO-3cYO-4cYO-5cYO-6cRA-1cRA-2cRA-3cRA-4cRI-1cRI-2cRI-3
cRI-4cRI-5cRI-6cRI-7cRU-1cRU-2cRU-3cRU-4cRU-5cRU-6cRE-1cRE-2cRE-3cRE-4cRO-1cRO-2cRO-3cRO-4cRO-5
cRO-6cWA-1cWA-2cWA-3cWA-4cWA-5cWI-1cWI-2cWI-3cWI-4cWI-5cWE-1cWE-2cWE-3cWE-4cWO-1cWO-2cWO-3cWO-4
cWO-5cWO-6cWO-7cN-MU-MO-1cN-MU-MO-2aHIRAGANA LETTER ARCHAIC WUaKATAKANA LETTER ARCHAIC YIdYEdWU
:1B150aHIRAGANA LETTER SMALL WIdWEdWO:1B164aKATAKANA LETTER SMALL WIdWEdWOdN:1BC00
aDUPLOYAN LETTER HcXcPcTcFcKcLcBcDcVcGcRcP NcD ScF NcK McR ScTHcSLOAN DHcDHcKKcSLOAN JcHLcLHcRHcM
cNcJcScM NcN McJ McS JcM WITH DOTcN WITH DOTcJ WITH DOTeDOTS INSIDE AND ABOVEcS WITH DOTfBELOWcM S
cN ScJ ScS ScM N ScN M ScJ M ScS J ScJ S WITH DOTdNeScS TeRdPeRcT SdR ScWcWHcW RcS NdMcK R ScG R S
cS KeRcAcSLOAN OWcOAcOcAOUcIcEcIEcSHORT IcUIcEEcSLOAN EHcROMANIAN IcSLOAN EEcLONG IcYEcUcEUcXWcU N
cLONG UcROMANIAN UcUHcSLOAN UcOOHcOWcOUcWAcWOcWIcWEIcWOWcNASAL UdOdIdAcPERNIN ANdAMcSLOAN ENdANdON
cVOCALIC M:1BC70aDUPLOYAN AFFIX LEFT HORIZONTAL SECANTcMID HORIZONTAL SECANT
cRIGHT HORIZONTAL SECANTcLOW VERTICAL SECANTcMID VERTICAL SECANTcHIGH VERTICAL SECANT
cATTACHED SECANTdLEFT-TO-RIGHT SECANTdTANGENTdTAILdE HOOKdI HOOKdTANGENT HOOK:1BC80
aDUPLOYAN AFFIX HIGH ACUTEdTIGHT ACUTEdGRAVEdLONG GRAVEdDOTdCIRCLEdLINEdWAVEdVERTICAL:1BC90
aDUPLOYAN AFFIX LOW ACUTEdTIGHT ACUTEdGRAVEdLONG GRAVEdDOTdCIRCLEdLINEdWAVEdVERTICALdARROW:1BC9C
aDUPLOYAN SIGN O WITH CROSSbTHICK LETTER SELECTORbDOUBLE MARKbPUNCTUATION CHINOOK FULL STOP
aSHORTHAND FORMAT LETTER OVERLAPcCONTINUING OVERLAPcDOWN STEPcUP STEP:1CF00
aZNAMENNY COMBINING MARK GORAZDO NIZKO S KRYZHEM ON LEFTdNIZKO S KRYZHEM ON LEFTdTSATA ON LEFT
dGORAZDO NIZKO ON LEFTdNIZKO ON LEFTdSREDNE ON LEFTdMALO POVYSHE ON LEFTdPOVYSHE ON LEFT
dVYSOKO ON LEFTdMALO POVYSHE S KHOKHLOM ON LEFTdPOVYSHE S KHOKHLOM ON LEFT
dVYSOKO S KHOKHLOM ON LEFTdGORAZDO NIZKO S KRYZHEM ON RIGHTdNIZKO S KRYZHEM ON RIGHT
dTSATA ON RIGHTdGORAZDO NIZKO ON RIGHTdNIZKO ON RIGHTdSREDNE ON RIGHTdMALO POVYSHE ON RIGHT
dPOVYSHE ON RIGHTdVYSOKO ON RIGHTdMALO POVYSHE S KHOKHLOM ON RIGHTdPOVYSHE S KHOKHLOM ON RIGHT
dVYSOKO S KHOKHLOM ON RIGHTdTSATA S KRYZHEMdMALO POVYSHE S KRYZHEMdSTRANNO MALO POVYSHE
dPOVYSHE S KRYZHEMeSTRANNOdVYSOKO S KRYZHEMdMALO POVYSHE STRANNOdGORAZDO VYSOKOdZELOdONdRAVNO
dTIKHAYAdBORZAYAdUDARKAdPODVERTKAdLOMKAdKUPNAYAdKACHKAdZEVOKdSKOBAdRAZSEKAdKRYZH ON LEFT:1CF30
aZNAMENNY COMBINING TONAL RANGE MARK MRACHNOfSVETLOfTRESVETLOcMARK ZADERZHKAdDEMESTVENNY ZADERZHKA
dOTSECHKAdPODCHASHIEeWITH VERTICAL STROKEdCHASHKAePOLNAYAdOBLACHKOdSOROCHYA NOZHKAdTOCHKA
dDVOETOCHIEcATTACHING VERTICAL OMETcMARK CURVED OMETdKRYZHcLOWER TONAL RANGE INDICATOR
bPRIZNAK MODIFIER LEVEL-2dLEVEL-3dDIRECTION FLIPdKRYZHdROG:1CF50aZNAMENNY NEUME KRYUKdTIKHY
cPARAKLITcDVA V CHELNUcKLYUCHcZANOZHEKcSTOPITSAdS OCHKOMcPEREVODKAdNEPOSTOYANNAYA
cSTOPITSA WITH SOROCHYA NOZHKAcCHELYUSTKAcPALKAcZAPYATAYAcGOLUBCHIK BORZYdTIKHYdMRACHNYdSVETLY
dTRESVETLYcVRAKHIYA PROSTAYAdMRACHNAYAdSVETLAYAdTRESVETLAYAdKLYUCHEVAYA PROSTAYAeMRACHNAYA
eSVETLAYAeTRESVETLAYAcDOUBLE ZAPYATAYAcREVERSED CHELYUSTKAcDERBITSAcKHAMILOcCHASHKAcPODCHASHIE
cSKAMEYTSA MRACHNAYAdSVETLAYAdTRESVETLAYAdTIKHAYAcDEMESTVENNY KLYUCH
cSKAMEYTSA KLYUCHEVAYA SVETLAYAdKLYUCHENEPOSTOYANNAYAdKLYUCHEVAYA TIKHAYAdDVOECHELNAYA PROSTAYA
eSVETLAYAeNEPOSTOYANNAYAeKLYUCHEVAYAcSLOZHITIEdS ZAPYATOYdZAKRYTOEdS KRYZHEMcKRYZHcROGcFITAcKOBYLA
cZMEYTSAcSTATYAdS ZAPYATOYeKRYZHEMeZAPYATOY I KRYZHEMeKRYZHEM I ZAPYATOYdZAKRYTAYAeS ZAPYATOY
dS ROGOMeDVUMYA ZAPYATYMIeZAPYATOY I PODCHASHIEMcPOLKULIZMYcSTATYA NEPOSTOYANNAYAcSTRELA PROSTAYA
dMRACHNOTIKHAYAdKRYZHEVAYAdPOLUPOVODNAYAdPOVODNAYAdNEPOSTOYANNAYAdKLYUCHEPOVODNAYA
dKLYUCHENEPOSTOYANNAYAdTIKHAYA PUTNAYAdDVOECHELNAYAdDVOECHELNOKRYZHEVAYAdDVOECHELNOPOVODNAYA
dDVOECHELNAYA KLYUCHEVAYAdDVOECHELNOPOVODNAYA KLYUCHEVAYAdGROMNAYA WITH SINGLE ZAPYATAYA
dGROMOPOVODNAYA WITH SINGLE ZAPYATAYAdGROMNAYAdGROMOPOVODNAYAeWITH DOUBLE ZAPYATAYA
dGROMOKRYZHEVAYAePOVODNAYAcMECHIKdPOVODNYdKLYUCHEVOYdKLYUCHEPOVODNYdKLYUCHENEPOSTOYANNY
cSTRELA TRYASOGLASNAYAdTRYASOPOVODNAYAdTRYASOSTRELNAYAcOSOKAdSVETLAYAdTRESVETLAYA
dKRYUKOVAYA SVETLAYAdKLYUCHEVAYA SVETLAYAeNEPOSTOYANNAYAcSTRELA KRYUKOVAYAePOVODNAYA
eGROMNAYA WITH SINGLE ZAPYATAYAeGROMOPOVODNAYA WITH SINGLE ZAPYATAYAeGROMNAYAeGROMOPOVODNAYA
fWITH DOUBLE ZAPYATAYAeGROMOKRYZHEVAYAfPOVODNAYAeTRYASKAcKUFISMAcOBLAKOcDUDAcNEMKAcPAUK"

end TicketMigration.CharacterName
