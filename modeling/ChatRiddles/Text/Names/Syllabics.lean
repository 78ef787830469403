import ChatRiddles.Text.Names.Run
/-!
The names of the syllabics of Canada, the scripts of South-East Asia, and letters with several
marks.
-/

namespace ChatRiddles.Text.Names

/-- The names of the syllabics of Canada, the scripts of South-East Asia, and letters with several
marks. -/
def syllabics : List Run := [
  ⟨0x1400, "
aCANADIAN SYLLABICS HYPHENtEtAAItIuItOuOtY-CREE OOtCARRIER EEzR ItAuAtWEvST-CREE WEuI
uEST-CREE WIuIIuEST-CREE WIIuOuEST-CREE WOuOOuEST-CREE WOOtNASKAPI WOOtWAuEST-CREE WAuAA
uEST-CREE WAAtNASKAPI WAAtAItY-CREE WtGLOTTAL STOPtFINAL ACUTEzGRAVEzBOTTOM HALF RING
zTOP HALF RINGzRIGHT HALF RINGzRINGzDOUBLE ACUTEzDOUBLE SHORT VERTICAL STROKESzMIDDLE DOT
zSHORT HORIZONTAL STROKEzPLUSzDOWN TACKtENtINtONtANtPEuAAIuIvIuOvOtY-CREE POOtCARRIER HEEzR HI
tPAvAuWEtWEST-CREE PWEtPWItWEST-CREE PWItPWIItWEST-CREE PWIItPWOtWEST-CREE PWOtPWOO
tWEST-CREE PWOOtPWAtWEST-CREE PWAtPWAAtWEST-CREE PWAAtY-CREE PWAAtPtWEST-CREE PtCARRIER HtTEuAAI
uIvIuOvOtY-CREE TOOtCARRIER DEEzR DItTAvAuWEtWEST-CREE TWEtTWItWEST-CREE TWItTWIItWEST-CREE TWII
tTWOtWEST-CREE TWOtTWOOtWEST-CREE TWOOtTWAtWEST-CREE TWAtTWAAtWEST-CREE TWAAtNASKAPI TWAAtTuTEvI
vOvAtKEuAAIuIvIuOvOtY-CREE KOOtKAvAuWEtWEST-CREE KWEtKWItWEST-CREE KWItKWIItWEST-CREE KWIItKWO
tWEST-CREE KWOtKWOOtWEST-CREE KWOOtKWAtWEST-CREE KWAtKWAAtWEST-CREE KWAAtNASKAPI KWAAtKuW
tSOUTH-SLAVEY KEHzSLAVEY KIHzSLAVEY KOHzSLAVEY KAHtCEuAAIuIvIuOvOtY-CREE COOtCAvAuWE
tWEST-CREE CWEtCWItWEST-CREE CWItCWIItWEST-CREE CWIItCWOtWEST-CREE CWOtCWOOtWEST-CREE CWOOtCWA
tWEST-CREE CWAtCWAAtWEST-CREE CWAAtNASKAPI CWAAtCtSAYISI THtMEuAAIuIvIuOvOtY-CREE MOOtMAvAuWE
tWEST-CREE MWEtMWItWEST-CREE MWItMWIItWEST-CREE MWIItMWOtWEST-CREE MWOtMWOOtWEST-CREE MWOOtMWA
tWEST-CREE MWAtMWAAtWEST-CREE MWAAtNASKAPI MWAAtMtWEST-CREE MtMHtATHAPASCAN MtSAYISI MtNEuAAIuI
vIuOvOtY-CREE NOOtNAvAuWEtWEST-CREE NWEtNWAtWEST-CREE NWAtNWAAtWEST-CREE NWAAtNASKAPI NWAAu
tCARRIER NGtNHtLEuAAIuIvIuOvOtY-CREE LOOtLAvAuWEtWEST-CREE LWEtLWItWEST-CREE LWItLWII
tWEST-CREE LWIItLWOtWEST-CREE LWOtLWOOtWEST-CREE LWOOtLWAtWEST-CREE LWAtLWAAtWEST-CREE LWAAtL
tWEST-CREE LtMEDIAL LtSEuAAIuIvIuOvOtY-CREE SOOtSAvAuWEtWEST-CREE SWEtSWItWEST-CREE SWItSWII
tWEST-CREE SWIItSWOtWEST-CREE SWOtSWOOtWEST-CREE SWOOtSWAtWEST-CREE SWAtSWAAtWEST-CREE SWAA
tNASKAPI SWAAtStATHAPASCAN StSWtBLACKFOOT StMOOSE-CREE SKtNASKAPI SKWzI S-WzI SPWAzI STWAzI SKWA
zI SCWAtSHEvIwIvOwOvAwAvWEtWEST-CREE SHWEtSHWItWEST-CREE SHWItSHWIItWEST-CREE SHWIItSHWO
tWEST-CREE SHWOtSHWOOtWEST-CREE SHWOOtSHWAtWEST-CREE SHWAtSHWAAtWEST-CREE SHWAAtSHtYEuAAIuIvIuO
vOu-CREE YOOuAvAuWEtWEST-CREE YWEtYWItWEST-CREE YWItYWIItWEST-CREE YWIItYWOtWEST-CREE YWOtYWOO
tWEST-CREE YWOOtYWAtWEST-CREE YWAtYWAAtWEST-CREE YWAAtNASKAPI YWAAtYtBIBLE-CREE YtWEST-CREE Y
tSAYISI YItREu-CREE REtWEST-CREE LEtRAAIuIvIuOvOtWEST-CREE LOtRAvAtWEST-CREE LAtRWAA
tWEST-CREE RWAAtRtWEST-CREE RtMEDIAL RtFEuAAIuIvIuOvOuAvAuWAAtWEST-CREE FWAAtFtTHEtN-CREE THE
tTHItN-CREE THItTHIItN-CREE THIItTHOwOvAwAvWAAtWEST-CREE THWAAtTHuTHEwIwOwAwuYEvIvOvAtNUNAVIK HE
zK HIzK HIIzK HOzK HOOzK HAzK HAAzK HyUT HtHKtQAAIuIvIuOvOuAvAutTLHEwIwOwAtWEST-CREE REzREE RI
zREE ROzREE RAtNGAAIvIwIvOwOvAwAvuNGtSAYISI SHEz SHIz SHOz SHAtWOODS-CREE THEzCREE THIzCREE THO
zCREE THAzCREE THtLHIwIvOwOvAwAvtTH-CREE THEzE THIzE THIIzE THOzE THOOzE THAzE THAAzE TH
tAIVILIK BtBLACKFOOT EzOOT IzOOT OzOOT AzOOT WEzOOT WIzOOT WOzOOT WAzOOT NEzOOT NIzOOT NOzOOT NA
zOOT KEzOOT KIzOOT KOzOOT KAtSAYISI HEz HIz HOz HAtCARRIER GHUzR GHOzR GHEzR GHEEzR GHIzR GHA
zR RUzR ROzR REzR REEzR RIzR RAzR WUzR WOzR WEzR WEEzR WIzR WAzR HWUzR HWOzR HWEzR HWEEzR HWI
zR HWAzR THUzR THOzR THEzR THEEzR THIzR THAzR TTUzR TTOzR TTEzR TTEEzR TTIzR TTAzR PUzR POzR PE
zR PEEzR PIzR PAzR PzR GUzR GOzR GEzR GEEzR GIzR GAzR KHUzR KHOzR KHEzR KHEEzR KHIzR KHAzR KKU
zR KKOzR KKEzR KKEEzR KKIzR KKAzR KKzR NUzR NOzR NEzR NEEzR NIzR NAzR MUzR MOzR MEzR MEEzR MI
zR MAzR YUzR YOzR YEzR YEEzR YIzR YAzR JUtSAYISI JUtCARRIER JOzR JEzR JEEzR JItSAYISI JI
tCARRIER JAzR JJUzR JJOzR JJEzR JJEEzR JJIzR JJAzR LUzR LOzR LEzR LEEzR LIzR LAzR DLUzR DLO
zR DLEzR DLEEzR DLIzR DLAzR LHUzR LHOzR LHEzR LHEEzR LHIzR LHAzR TLHUzR TLHOzR TLHEzR TLHEE
zR TLHIzR TLHAzR TLUzR TLOzR TLEzR TLEEzR TLIzR TLAzR ZUzR ZOzR ZEzR ZEEzR ZIzR ZAzR Z
zR INITIAL ZzR DZUzR DZOzR DZEzR DZEEzR DZIzR DZAzR SUzR SOzR SEzR SEEzR SIzR SAzR SHUzR SHO
zR SHEzR SHEEzR SHIzR SHAzR SHzR TSUzR TSOzR TSEzR TSEEzR TSIzR TSAzR CHUzR CHOzR CHEzR CHEE
zR CHIzR CHAzR TTSUzR TTSOzR TTSEzR TTSEEzR TTSIzR TTSAuHI SIGNtFULL STOPtQAItNGAIuNGIxIwOxOwAxA
tWOODS-CREE THWEEzCREE THWIzCREE THWIIzCREE THWOzCREE THWOOzCREE THWAzCREE THWAAzCREE FINAL TH
tBLACKFOOT WaOGHAM SPACE MARKgLETTER BEITHnLUISnFEARNnSAILnNIONnUATHnDAIRnTINNEnCOLLoEIRTnMUIN
nGORTnNGEADALnSTRAIFnRUISnAILMnONNnURnEADHADHnIODHADHnEABHADHnORnUILLEANNnIFINnEAMHANCHOLLnPEITH
gFEATHER MARKgREVERSED FEATHER MARK"⟩,
  ⟨0x16a0, "
aRUNIC LETTER FEHU FEOH FE FnVnURUZ UR UnYRonWnTHURISAZ THURS THORNnETHnANSUZ AnOS OnAC AoESC
nLONG-BRANCH-OSS OnSHORT-TWIG-OSS OnOoEoNnRAIDO RAD REID RnKAUNAnCENnKAUN KnGnENGnGEBO GYFU GoAR
nWUNJO WYNN WnHAGLAZ HpEGL HnLONG-BRANCH-HAGALL HnSHORT-TWIG-HAGALL HnNAUDIZ NYD NAUD N
nSHORT-TWIG-NAUD NnDOTTED-NnISAZ IS ISS InEnJERAN JnGERnLONG-BRANCH-AR AEnSHORT-TWIG-AR A
nIWAZ EOHnPERTHO PEORTH PnALGIZ EOLHXnSOWILO SoIGEL LONG-BRANCH-SOL SoHORT-TWIG-SOL SnCnZ
nTIWAZ TIR TYR TnSHORT-TWIG-TYR TnDnBERKANAN BEORC BJARKAN BnSHORT-TWIG-BJARKAN BnDOTTED-P
nOPEN-PnEHWAZ EH EnMANNAZ MAN MnLONG-BRANCH-MADR MnSHORT-TWIG-MADR MnLAUKAZ LAGU LOGR LnDOTTED-L
nINGWAZqnDAGAZ DAEG DnOTHALAN ETHEL OnEARnIORnCWEORTHoALCoEALCnSTANnLONG-BRANCH-YRnSHORT-TWIG-YR
nICELANDIC-YRnQnXgSINGLE PUNCTUATIONgMULTIPLE PUNCTUATIONgCROSS PUNCTUATIONgARLAUG SYMBOL
gTVIMADUR SYMBOLgBELGTHOR SYMBOLgLETTER KnSHnOOnFRANKS CASKET OSzT ISzT EHzT ACzT AESC"⟩,
  ⟨0x1700, "
aTAGALOG LETTER ApIpUpKApGApNGApTApDApNApPApBApMApYApRApLApWApSApHAiVOWEL SIGN ItUiSIGN VIRAMA
nPAMUDPOD"⟩,
  ⟨0x171f, "
aTAGALOG LETTER ARCHAIC RAaHANUNOO LETTER ApIpUpKApGApNGApTApDApNApPApBApMApYApRApLApWApSApHA
iVOWEL SIGN ItUiSIGN PAMUDPODaPHILIPPINE SINGLE PUNCTUATIONlDOUBLE PUNCTUATION"⟩,
  ⟨0x1740, "
aBUHID LETTER AnInUnKAnGAnNGAnTAnDAnNAnPAnBAnMAnYAnRAnLAnWAnSAnHAgVOWEL SIGN IrU"⟩,
  ⟨0x1760, "aTAGBANWA LETTER AqIqUqKAqGAqNGAqTAqDAqNAqPAqBAqMAqYA"⟩,
  ⟨0x176e, "aTAGBANWA LETTER LAqWAqSA"⟩,
  ⟨0x1772, "aTAGBANWA VOWEL SIGN IuU"⟩,
  ⟨0x1780, "
aKHMER LETTER KAoHAoOoHOnNGOnCAoHAoOoHOnNYOnDAnTTHAnDOnTTHOnNNOnTAoHAoOoHOnNOnBAnPHAoOoHOnMOnYO
nROnLOnVOnSHAoSOoAnHAnLAnQAgINDEPENDENT VOWEL QAQzAAzIzIIzUzUKzUUzUUVyRYzYYyLYzYYyQEzAI
zOO TYPE ONEzOO TYPE TWOzAUgVOWEL INHERENT AQwAmSIGN AArIsIrYsYrUsUsArOErYArIErErAEsIrOOrAU
gSIGN NIKAHITlREAHMUKlYUUKALEAPINTUlMUUSIKATOANlTRIISAPlBANTOClROBATlTOANDAKHIATlKAKABATlAHSDA
lSAMYOK SANNYAlVIRIAMlCOENGlBATHAMASATlKHANlBARIYOOSANlCAMNUC PII KUUHlLEK TOOlBEYYAL
lPHNAEK MUANlKOOMUUTgCURRENCY SYMBOL RIELgSIGN AVAKRAHASANYAmTTHACAN"⟩,
  ⟨0x17e0, "aKHMER DIGIT ZEROmONEmTWOnHREEmFOURnIVEmSIXnEVENmEIGHTmNINE"⟩,
  ⟨0x17f0, "aKHMER SYMBOL LEK ATTAK SONxMUOYxPIIxBEIyUONxPRAMzAM-MUOYzAM-PIIzAM-BEIzAM-BUON"⟩,
  ⟨0x1800, "
aMONGOLIAN BIRGAkELLIPSISkCOMMAkFULL STOPkCOLONkFOUR DOTSkTODO SOFT HYPHEN
kSIBE SYLLABLE BOUNDARY MARKERkMANCHU COMMArFULL STOPkNIRUGUkFREE VARIATION SELECTOR ONE
zSELECTOR TWOzSELECTOR THREEkVOWEL SEPARATORkFREE VARIATION SELECTOR FOURkDIGIT ZEROqONEqTWO
rHREEqFOURrIVEqSIXrEVENqEIGHTqNINE"⟩,
  ⟨0x1820, "
aMONGOLIAN LETTER ArErIrOrUrOErUErEErNArANGrBArPArQArGArMArLArSAsHArTArDArCHArJArYArRArWArFArKA
sHArTSArZArHAArZRArLHArZHIrCHIrTODO LONG VOWEL SIGNwEwIwOwUwOEwUEwANGwBAwPAwQAwGAwMAwTAwDAwCHA
wJAwTSAwYAwWAwKAwGAAwHAAwJIAwNIAwDZArSIBE EwIxYwUExwANGwKAwGAwHAwPAwSHAwTAwDAwJAwFAwGAAwHAAwTSA
wZAwRAAwCHAwZHArMANCHU IyKAyRAyFAyZHArCHA WITH TWO DOTS"⟩,
  ⟨0x1880, "
aMONGOLIAN LETTER ALI GALI ANUSVARA ONEz VISARGA ONEz DAMARUz UBADAMAz INVERTED UBADAMAz BALUDA
z THREE BALUDAz Az Iz KAz NGAz CAz TTAz TTHAz DDAz NNAz TAz DAz PAz PHAz SSAz ZHAz ZAz AH
rTODO ALI GALI TAz GALI ZHArMANCHU ALI GALI GHAzLI GALI NGAzLI GALI CAzLI GALI JHAzLI GALI TTA
zLI GALI DDHAzLI GALI TAzLI GALI DHAzLI GALI SSAzLI GALI CYAzLI GALI ZHAzLI GALI ZA
rALI GALI HALF Uz HALF YArMANCHU ALI GALI BHArALI GALI DAGALGArMANCHU ALI GALI LHA"⟩,
  ⟨0x18b0, "
aCANADIAN SYLLABICS OYtAYuAYtWAYtPOYuAYuWOYtTAYtKAYuWAYtMAYtNOYuAYtLAYtSOYuAYuHOYvAYvWOYtYOYuAY
tRAYtNWItOJIBWAY NWItNWIItOJIBWAY NWIItNWOtOJIBWAY NWOtNWOOtOJIBWAY NWOOtRWEEvIwIvOwOvA
tOJIBWAY PzY TzY KzY CzY MzY NzY SzY SHtEASTERN WtWESTERN WtFINAL SMALL RINGzRAISED DOT
tR-CREE RWEtWEST-CREE LOOzREE LAAtTHWEwAuTHWEwOOwAAuLHWEwOOtSAYISI SHWEz SHOOz HOOtCARRIER GWU
zR DENE GEEzR GAAzR GWAtSAYISI JUUtCARRIER JWAtBEAVER DENE Lz DENE RtCARRIER DENTAL S"⟩,
  ⟨0x1900, "
aLIMBU VOWEL-CARRIER LETTERgLETTER KAoHAnGAoHAnNGAnCAoHAnJAoHAnYANnTAoHAnDAoHAnNAnPAoHAnBAoHAnMA
nYAnRAnLAnWAnSHAoSAoAnHAnGYANnTRA"⟩,
  ⟨0x1920, "aLIMBU VOWEL SIGN ArIrUrEErAIrOOrAUrErOgSUBJOINED LETTER YAxRAxWA"⟩,
  ⟨0x1930, "
aLIMBU SMALL LETTER KAtNGAtANUSVARAtTAtNAtPAtMAtRAtLAhIGN MUKPHRENGlKEMPHRENGlSA-I"⟩,
  ⟨0x1940, "aLIMBU SIGN LOO"⟩,
  ⟨0x1944, "
aLIMBU EXCLAMATION MARKgQUESTION MARKgDIGIT ZEROmONEmTWOnHREEmFOURnIVEmSIXnEVENmEIGHTmNINE
aTAI LE LETTER KAoXAoNGAoTSAoSAoYAoTApHAoLAoPApHAoMAoFAoVAoHAoQAoKHAoTSHAoNAoAoIoEEpHoUoOOpoUEoE
oAUEpI"⟩,
  ⟨0x1970, "aTAI LE LETTER TONE-2t3t4t5t6"⟩,
  ⟨0x1980, "
aNEW TAI LUE LETTER HIGH QAtLOW QAtHIGH KAyXAyNGAtLOW KAxXAxNGAtHIGH TSAySAyYAtLOW TSAxSAxYA
tHIGH TAzHAyNAtLOW TAyHAxNAtHIGH PAzHAyMAtLOW PAyHAxMAtHIGH FAyVAyLAtLOW FAxVAxLAtHIGH HAyDAyBA
tLOW HAxDAxBAtHIGH KVAyXVAtLOW KVAxXVAtHIGH SUAtLOW SUA"⟩,
  ⟨0x19b0, "
aNEW TAI LUE VOWEL SIGN VOWEL SHORTENERxAAxIIxUyUxExAExOyAxUExAYyAYxUYxOYyAYxUEYxIY
mLETTER FINAL VzNGzNzMzKzDzBmTONE MARK-1w2"⟩,
  ⟨0x19d0, "
aNEW TAI LUE DIGIT ZEROsONEsTWOtHREEsFOURtIVEsSIXtEVENsEIGHTsNINEmTHAM DIGIT ONE"⟩,
  ⟨0x19de, "
aNEW TAI LUE SIGN LAEuVaKHMER SYMBOL PATHAMASATnMUOY KOETnPII KOETnBEI KOEToUON KOETnPRAM KOET
r-MUOY KOETsPII KOETsBEI KOETtUON KOETnDAP KOETq-MUOY KOETrPII KOETrBEI KOETsUON KOETrPRAM KOET
nTUTEYASATnMUOY ROCnPII ROCnBEI ROCoUON ROCnPRAM ROCr-MUOY ROCsPII ROCsBEI ROCtUON ROCnDAP ROC
q-MUOY ROCrPII ROCrBEI ROCsUON ROCrPRAM ROCaBUGINESE LETTER KAqGAqNGAsKAqPAqBAqMArPAqTAqDAqNArRA
qCAqJAqNYAsCAqYAqRAqLAqVAqSAqAqHAjVOWEL SIGN IuUuEuOuAE"⟩,
  ⟨0x1a1e, "
aBUGINESE PALLAWAjEND OF SECTIONaTAI THAM LETTER HIGH KAwHAwXAqLOW KAvXAvHAqNGAqHIGH CAwHA
qLOW CAuSAuCHAqNYAqRATAqHIGH RATHAqDAqLOW RATHAqRANAqHIGH TAwHAqLOW TAvHAqNAqBAqHIGH PAwHAvFA
qLOW PAuFAuPHAqMAqLOW YAqHIGH YAqRArUEqLArUEqWAqHIGH SHAwSAwAvHAqLLAqAqLOW HAqIrIqUrUqEEqOOqLAE
qGREAT SAjCONSONANT SIGN MEDIAL RAzEDIAL LAyLA TANG LAIjSIGN MAI KANG LAI
jCONSONANT SIGN FINAL NGAyLOW PAyHIGH RATHA OR LOW PAyMAyBAySA"⟩,
  ⟨0x1a60, "
aTAI THAM SIGN SAKOTjVOWEL SIGN AuMAI SATuAAuTALL AAuIvIuUEvUEvvUuOvA BELOWvYuEuAEuOOuAIuTHAM AI
uOA ABOVEjSIGN MAI KANGoTONE-1t2oKHUEN TONE-3z4z5oRA HAAMoMAI SAMoKHUEN-LUE KARAN"⟩,
  ⟨0x1a7f, "
aTAI THAM COMBINING CRYPTOGRAMMIC DOTjHORA DIGIT ZEROuONEuTWOvHREEuFOURvIVEuSIXvEVENuEIGHTuNINE"⟩,
  ⟨0x1a90, "aTAI THAM THAM DIGIT ZEROuONEuTWOvHREEuFOURvIVEuSIXvEVENuEIGHTuNINE"⟩,
  ⟨0x1aa0, "
aTAI THAM SIGN WIANGtWAAKoSAWANoKEOWoHOYoDOKMAIoREVERSED ROTATED RANAoMAI YAMOKoKAANsKUUoSATKAAN
vKUUoHANGoCAANG"⟩,
  ⟨0x1ab0, "
aCOMBINING DOUBLED CIRCUMFLEX ACCENTlIAERESIS-RINGkINFINITYkDOWNWARDS ARROWkTRIPLE DOTkX-X BELOW
kWIGGLY LINE BELOWkOPEN MARK BELOWkDOUBLE OPEN MARK BELOWkLIGHT CENTRALIZATION STROKE BELOW
kSTRONG CENTRALIZATION STROKE BELOWkPARENTHESES ABOVEkDOUBLE PARENTHESES ABOVEkPARENTHESES BELOW
wOVERLAYkLATIN SMALL LETTER W BELOWzTER TURNED W BELOWlEFT PARENTHESIS ABOVE LEFT
kRIGHT PARENTHESIS ABOVE RIGHTkLEFT PARENTHESIS BELOW LEFTkRIGHT PARENTHESIS BELOW RIGHT
kSQUARE BRACKETS ABOVEkNUMBER SIGN ABOVEkINVERTED DOUBLE ARCH ABOVEkPLUS SIGN ABOVE
kDOUBLE PLUS SIGN ABOVEzN BELOWkTRIPLE ACUTE ACCENTkLATIN SMALL LETTER INSULAR GzTER INSULAR R
zTER INSULAR T"⟩,
  ⟨0x1b00, "
aBALINESE SIGN ULU RICEMsCANDRAoCECEKoSURANGoBISAHjLETTER AKARAv TEDUNGqIKARAv TEDUNGqUKARA
v TEDUNGqRA REPAx TEDUNGqLA LENGAy TEDUNGqEKARAqAIKARAqOKARAv TEDUNGqKAs MAHAPRANAqGAs GORAqNGA
qCAs LACAqJAs JERAqNYAqTA LATIKtMURDA MAHAPRANAqDA MURDA ALPAPRANAzMAHAPRANAqNA RAMBATqTAs TAWA
qDAs MADUqNAqPAs KAPALqBAs KEMBANGqMAqYAqRAqLAqWAqSA SAGAvPAsqHAjSIGN REREKANjVOWEL SIGN TEDUNG
uULUx SARIuSUKUy ILUTuRA REPAzPA TEDUNGuLA LENGAzNGA TEDUNGuTALINGzG REPAzG TEDUNGzG REPA TEDUNG
uPEPETz TEDUNGjADEG ADEGjLETTER KAF SASAKrHOT SASAKqTZIR SASAKqEF SASAKqVE SASAKqZAL SASAK
qASYURA SASAKrRCHAIC JNYA"⟩,
  ⟨0x1b50, "
aBALINESE DIGIT ZEROpONEpTWOqHREEpFOURqIVEpSIXqEVENpEIGHTpNINEjPANTIlMADAjWINDUjCARIK PAMUNGKAH
pSIKIpPARERENjPAMENENGjMUSICAL SYMBOL DONGzENGzUNGzANGzANG SURANGzINGzAENGzEUNGzAINGzANG GEDE
yCOMBINING TEGEHzOMBINING ENDEPzOMBINING KEMPULzOMBINING KEMPLIzOMBINING JEGOGAN
zOMBINING KEMPUL WITH JEGOGANzOMBINING KEMPLI WITH JEGOGANzOMBINING BENDEzOMBINING GONG
yRIGHT-HAND OPEN DUGzIGHT-HAND OPEN DAGzIGHT-HAND CLOSED TUKzIGHT-HAND CLOSED TAK
yLEFT-HAND OPEN PANGzEFT-HAND OPEN PUNGzEFT-HAND CLOSED PLAKzEFT-HAND CLOSED PLUK
zEFT-HAND OPEN PINGjPANTI LANTANGlMADA LANTANG"⟩,
  ⟨0x1b80, "
aSUNDANESE SIGN PANYECEKsGLAYARtWISADkLETTER ArIrUrAErOrEsUrKArQArGArNGArCArJArZArNYArTArDArNA
rPArFArVArBArMArYArRArLArWArSArXArHAkCONSONANT SIGN PAMINGKALzPANYAKRAzPANYIKU
kVOWEL SIGN PANGHULUyYUKUyAELAENGyOLONGxMEPETxNEULEUNGkSIGN PAMAAEHpVIRAMA
kCONSONANT SIGN PASANGAN MAzPASANGAN WAkLETTER KHArSYAkDIGIT ZEROqONEqTWOrHREEqFOURrIVEqSIXrEVEN
qEIGHTqNINEkAVAGRAHAkLETTER REUrLEUrBHArFINAL KxMaBATAK LETTER AnSIMALUNGUN AnHAnSIMALUNGUN HA
nMANDAILING HAnBAnKARO BAnPAnSIMALUNGUN PAnNAnMANDAILING NAnWAnSIMALUNGUN WAnPAKPAK WAnGA
nSIMALUNGUN GAnJAnDAnRAnSIMALUNGUN RAnMAnSIMALUNGUN MAoOUTHERN TAnNORTHERN TAnSAoIMALUNGUN SA
nMANDAILING SAnYAnSIMALUNGUN YAnNGAnLAnSIMALUNGUN LAnNYAnCAnNDAnMBAnInUgSIGN TOMPIgVOWEL SIGN E
rPAKPAK ErEErIrKARO IrOrKARO OrUs FOR SIMALUNGUN SAgCONSONANT SIGN NGvHgPANGOLATjONGONAN"⟩,
  ⟨0x1bfc, "
aBATAK SYMBOL BINDU NA METEKtPINARBORAStJUDULtPANGOLATaLEPCHA LETTER KApLApHAoGApLAoNGAoCApHAoJA
oNYAoTApHAoDAoNAoPApLApHAoFApLAoBApLAoMApLAoTSAqHAoDZAoYAoRAoLAoHApLAoVAoSApHAoWAoA
hSUBJOINED LETTER YAyRAhVOWEL SIGN AAsIsOtOsUtUsEhCONSONANT SIGN KwMwLwNwPwRwTwNYIN-DOwKANG
hSIGN RANmNUKTA"⟩,
  ⟨0x1c3b, "
aLEPCHA PUNCTUATION TA-ROLtNYET THYOOM TA-ROLtCER-WAtTSHOOK CER-WAzhDIGIT ZEROnONEnTWOoHREEnFOUR
oIVEnSIXoEVENnEIGHTnNINE"⟩,
  ⟨0x1c4d, "
aLEPCHA LETTER TTAqHAoDDAaOL CHIKI DIGIT ZEROpONEpTWOqHREEpFOURqIVEpSIXqEVENpEIGHTpNINE
jLETTER LAqATrGrNGrLqLAAqAAKsJsMsWqLIqISrHrNYrRqLUqUCrDrNNrYqLEqEPrDDrNrRRqLOqOTTrBrVrH
jMU TTUDDAGjGAAHLAA TTUDDAAGjMU-GAAHLAA TTUDDAAGjRELAAjPHAARKAAjAHADjPUNCTUATION MUCAAD
vDOUBLE MUCAADaCYRILLIC SMALL LETTER ROUNDED VEwLONG-LEGGED DEwNARROW OwWIDE ESwTALL TE
xHREE-LEGGED TExALL HARD SIGNzL YATwUNBLENDED UK"⟩,
  ⟨0x1c90, "
aGEORGIAN MTAVRULI CAPITAL LETTER ANz LETTER BANz LETTER GANz LETTER DONz LETTER ENz LETTER VIN
z LETTER ZENz LETTER TANz LETTER INz LETTER KANz LETTER LASz LETTER MANz LETTER NARz LETTER ON
z LETTER PARz LETTER ZHARz LETTER RAEz LETTER SANz LETTER TARz LETTER UNz LETTER PHAR
z LETTER KHARz LETTER GHANz LETTER QARz LETTER SHINz LETTER CHINz LETTER CANz LETTER JIL
z LETTER CILz LETTER CHARz LETTER XANz LETTER JHANz LETTER HAEz LETTER HEz LETTER HIEz LETTER WE
z LETTER HARz LETTER HOEz LETTER FIz LETTER YNz LETTER ELIFIz LETTER TURNED GANz LETTER AIN"⟩,
  ⟨0x1cbd, "
aGEORGIAN MTAVRULI CAPITAL LETTER AENz LETTER HARD SIGNz LETTER LABIAL SIGN
aSUNDANESE PUNCTUATION BINDU SURYAzDU PANGLONGzDU PURNAMAzDU CAKRAzDU LEU SATANGAzDU KA SATANGA
zDU DA SATANGAzDU BA SATANGA"⟩,
  ⟨0x1cd0, "
aVEDIC TONE KARSHANAlSHARAlPRENKHAgSIGN NIHSHVASAlYAJURVEDIC MIDLINE SVARITA
gTONE YAJURVEDIC AGGRAVATED INDEPENDENT SVARITAwINDEPENDENT SVARITAwKATHAKA INDEPENDENT SVARITA
lCANDRA BELOWlYAJURVEDIC KATHAKA INDEPENDENT SVARITA SCHROEDERlDOUBLE SVARITAlTRIPLE SVARITA
lKATHAKA ANUDATTAlDOT BELOWlTWO DOTS BELOWmHREE DOTS BELOWlRIGVEDIC KASHMIRI INDEPENDENT SVARITA
lATHARVAVEDIC INDEPENDENT SVARITAgSIGN VISARGA SVARITAtUDATTAlREVERSED VISARGA UDATTA
lVISARGA ANUDATTAlREVERSED VISARGA ANUDATTAlVISARGA UDATTA WITH TAILtANUDATTA WITH TAIL
lANUSVARA ANTARGOMUKHAuBAHIRGOMUKHAuVAMAGOMUKHAzOMUKHA WITH TAILlTIRYAKlHEXIFORM LONG ANUSVARA
lLONG ANUSVARAlRTHANG LONG ANUSVARAlANUSVARA UBHAYATO MUKHAmRDHAVISARGAlROTATED ARDHAVISARGA
gTONE CANDRA ABOVEgSIGN JIHVAMULIYAlUPADHMANIYAlATIKRAMAgTONE RING ABOVElDOUBLE RING ABOVE
gSIGN DOUBLE ANUSVARA ANTARGOMUKHA"⟩,
  ⟨0x1d00, "
aLATIN LETTER SMALL CAPITAL AzL AEgSMALL LETTER TURNED AEgLETTER SMALL CAPITAL BARRED BzL CzL D
zL ETHzL EgSMALL LETTER TURNED OPEN Ez IgLETTER SMALL CAPITAL JzL KzL L WITH STROKEzL M
zL REVERSED NzL OzL OPEN OgSMALL LETTER SIDEWAYS OzYS OPEN OzYS O WITH STROKEtTURNED OE
gLETTER SMALL CAPITAL OUgSMALL LETTER TOP HALF OtBOTTOM HALF OgLETTER SMALL CAPITAL P
zL REVERSED RzL TURNED RzL TzL UgSMALL LETTER SIDEWAYS UzYS DIAERESIZED UzYS TURNED M
gLETTER SMALL CAPITAL VzL WzL ZzL EZHnVOICED LARYNGEAL SPIRANTnAIN
aGREEK LETTER SMALL CAPITAL GAMMAzL LAMDAzL PIzL RHOzL PSIaCYRILLIC LETTER SMALL CAPITAL EL
aMODIFIER LETTER CAPITAL AzEyBzARRED ByDyEyREVERSED EyGyHyIyJyKyLyMyNyREVERSED NyOzUyPyRyTyUyW
qSMALL AwTURNED AwALPHAwTURNED AEwBwDwEwSCHWAwOPEN EwTURNED OPEN EwGwTURNED IwKwMwENGwOxPEN O
wTOP HALF OwBOTTOM HALF OwPwTwUwSIDEWAYS UwTURNED MwVwAINwBETAwGREEK GAMMAwDELTAwGREEK PHIwCHI
aLATIN SUBSCRIPT SMALL LETTER IzTER RzTER UzTER VaGREEK SUBSCRIPT SMALL LETTER BETAzTER GAMMA
zTER RHOzTER PHIzTER CHIaLATIN SMALL LETTER UEtB WITH MIDDLE TILDEtD WITH MIDDLE TILDE
tF WITH MIDDLE TILDEtM WITH MIDDLE TILDEtN WITH MIDDLE TILDEtP WITH MIDDLE TILDE
tR WITH MIDDLE TILDEz FISHHOOK AND MIDDLE TILDEtS WITH MIDDLE TILDEtT WITH MIDDLE TILDE
tZ WITH MIDDLE TILDEtTURNED GaMODIFIER LETTER CYRILLIC ENaLATIN SMALL LETTER INSULAR G
tTH WITH STRIKETHROUGHmCAPITAL LETTER I WITH STROKEmLETTER IOTA WITH STROKEtP WITH STROKE
mCAPITAL LETTER U WITH STROKEmLETTER UPSILON WITH STROKEtB WITH PALATAL HOOKtD WITH PALATAL HOOK
tF WITH PALATAL HOOKtG WITH PALATAL HOOKtK WITH PALATAL HOOKtL WITH PALATAL HOOK
tM WITH PALATAL HOOKtN WITH PALATAL HOOKtP WITH PALATAL HOOKtR WITH PALATAL HOOK
tS WITH PALATAL HOOKtESH WITH PALATAL HOOKtV WITH PALATAL HOOKtX WITH PALATAL HOOK
tZ WITH PALATAL HOOKtA WITH RETROFLEX HOOKuLPHA WITH RETROFLEX HOOKtD WITH HOOK AND TAIL
tE WITH RETROFLEX HOOKtOPEN E WITH RETROFLEX HOOKtREVERSED OPEN E WITH RETROFLEX HOOK
tSCHWA WITH RETROFLEX HOOKtI WITH RETROFLEX HOOKtOPEN O WITH RETROFLEX HOOK
tESH WITH RETROFLEX HOOKtU WITH RETROFLEX HOOKtEZH WITH RETROFLEX HOOK
aMODIFIER LETTER SMALL TURNED ALPHAwCx WITH CURLwETHwREVERSED OPEN EwFwDOTLESS J WITH STROKE
wSCRIPT GwTURNED HwI WITH STROKExOTAwCAPITAL IzITAL I WITH STROKEwJ WITH CROSSED-TAIL
wL WITH RETROFLEX HOOKzITH PALATAL HOOKwCAPITAL LwM WITH HOOKwTURNED M WITH LONG LEG
wN WITH LEFT HOOKzITH RETROFLEX HOOKwCAPITAL NwBARRED OwPHIwS WITH HOOKwESHwT WITH PALATAL HOOK
wU BARxPSILONwCAPITAL UwV WITH HOOKwTURNED VwZx WITH RETROFLEX HOOKzITH CURLwEZHwTHETA
aCOMBINING DOTTED GRAVE ACCENTrACUTE ACCENTkSNAKE BELOWlUSPENSION MARKkMACRON-ACUTEkGRAVE-MACRON
kMACRON-GRAVEkACUTE-MACRONkGRAVE-ACUTE-GRAVEkACUTE-GRAVE-ACUTEkLATIN SMALL LETTER R BELOW
kBREVE-MACRONkMACRON-BREVEkDOUBLE CIRCUMFLEX ABOVEkOGONEK ABOVEkZIGZAG BELOWkIS BELOWkUR ABOVE
lS ABOVEkLATIN SMALL LETTER FLATTENED OPEN A ABOVEzTER AEzTER AOzTER AVzTER C CEDILLA
zTER INSULAR DzTER ETHzTER GqLETTER SMALL CAPITAL GqSMALL LETTER KzTER LqLETTER SMALL CAPITAL L
zALL CAPITAL MqSMALL LETTER NqLETTER SMALL CAPITAL NzALL CAPITAL RqSMALL LETTER R ROTUNDAzTER S
zTER LONG SzTER ZzTER ALPHAzTER BzTER BETAzTER SCHWAzTER FzTER L WITH DOUBLE MIDDLE TILDE
zTER O WITH LIGHT CENTRALIZATION STROKEzTER PzTER ESHzTER U WITH LIGHT CENTRALIZATION STROKE
zTER WzTER A WITH DIAERESISzTER O WITH DIAERESISzTER U WITH DIAERESISkUP TACK ABOVE
kKAVYKA ABOVE RIGHTxLEFTkDOT ABOVE LEFTkWIDE INVERTED BRIDGE BELOWkDOT BELOW LEFTlELETION MARK
lOUBLE INVERTED BREVE BELOWkALMOST EQUAL TO BELOWkLEFT ARROWHEAD ABOVE
kRIGHT ARROWHEAD AND DOWN ARROWHEAD BELOWaLATIN CAPITAL LETTER A WITH RING BELOW
gSMALL LETTER A WITH RING BELOWgCAPITAL LETTER B WITH DOT ABOVEgSMALL LETTER B WITH DOT ABOVE
gCAPITAL LETTER B WITH DOT BELOWgSMALL LETTER B WITH DOT BELOWgCAPITAL LETTER B WITH LINE BELOW
gSMALL LETTER B WITH LINE BELOWgCAPITAL LETTER C WITH CEDILLA AND ACUTE
gSMALL LETTER C WITH CEDILLA AND ACUTEgCAPITAL LETTER D WITH DOT ABOVE
gSMALL LETTER D WITH DOT ABOVEgCAPITAL LETTER D WITH DOT BELOWgSMALL LETTER D WITH DOT BELOW
gCAPITAL LETTER D WITH LINE BELOWgSMALL LETTER D WITH LINE BELOWgCAPITAL LETTER D WITH CEDILLA
gSMALL LETTER D WITH CEDILLAgCAPITAL LETTER D WITH CIRCUMFLEX BELOW
gSMALL LETTER D WITH CIRCUMFLEX BELOWgCAPITAL LETTER E WITH MACRON AND GRAVE
gSMALL LETTER E WITH MACRON AND GRAVEgCAPITAL LETTER E WITH MACRON AND ACUTE
gSMALL LETTER E WITH MACRON AND ACUTEgCAPITAL LETTER E WITH CIRCUMFLEX BELOW
gSMALL LETTER E WITH CIRCUMFLEX BELOWgCAPITAL LETTER E WITH TILDE BELOW
gSMALL LETTER E WITH TILDE BELOWgCAPITAL LETTER E WITH CEDILLA AND BREVE
gSMALL LETTER E WITH CEDILLA AND BREVEgCAPITAL LETTER F WITH DOT ABOVE
gSMALL LETTER F WITH DOT ABOVEgCAPITAL LETTER G WITH MACRONgSMALL LETTER G WITH MACRON
gCAPITAL LETTER H WITH DOT ABOVEgSMALL LETTER H WITH DOT ABOVEgCAPITAL LETTER H WITH DOT BELOW
gSMALL LETTER H WITH DOT BELOWgCAPITAL LETTER H WITH DIAERESISgSMALL LETTER H WITH DIAERESIS
gCAPITAL LETTER H WITH CEDILLAgSMALL LETTER H WITH CEDILLAgCAPITAL LETTER H WITH BREVE BELOW
gSMALL LETTER H WITH BREVE BELOWgCAPITAL LETTER I WITH TILDE BELOW
gSMALL LETTER I WITH TILDE BELOWgCAPITAL LETTER I WITH DIAERESIS AND ACUTE
gSMALL LETTER I WITH DIAERESIS AND ACUTEgCAPITAL LETTER K WITH ACUTEgSMALL LETTER K WITH ACUTE
gCAPITAL LETTER K WITH DOT BELOWgSMALL LETTER K WITH DOT BELOWgCAPITAL LETTER K WITH LINE BELOW
gSMALL LETTER K WITH LINE BELOWgCAPITAL LETTER L WITH DOT BELOWgSMALL LETTER L WITH DOT BELOW
gCAPITAL LETTER L WITH DOT BELOW AND MACRONgSMALL LETTER L WITH DOT BELOW AND MACRON
gCAPITAL LETTER L WITH LINE BELOWgSMALL LETTER L WITH LINE BELOW
gCAPITAL LETTER L WITH CIRCUMFLEX BELOWgSMALL LETTER L WITH CIRCUMFLEX BELOW
gCAPITAL LETTER M WITH ACUTEgSMALL LETTER M WITH ACUTEgCAPITAL LETTER M WITH DOT ABOVE
gSMALL LETTER M WITH DOT ABOVEgCAPITAL LETTER M WITH DOT BELOWgSMALL LETTER M WITH DOT BELOW
gCAPITAL LETTER N WITH DOT ABOVEgSMALL LETTER N WITH DOT ABOVEgCAPITAL LETTER N WITH DOT BELOW
gSMALL LETTER N WITH DOT BELOWgCAPITAL LETTER N WITH LINE BELOWgSMALL LETTER N WITH LINE BELOW
gCAPITAL LETTER N WITH CIRCUMFLEX BELOWgSMALL LETTER N WITH CIRCUMFLEX BELOW
gCAPITAL LETTER O WITH TILDE AND ACUTEgSMALL LETTER O WITH TILDE AND ACUTE
gCAPITAL LETTER O WITH TILDE AND DIAERESISgSMALL LETTER O WITH TILDE AND DIAERESIS
gCAPITAL LETTER O WITH MACRON AND GRAVEgSMALL LETTER O WITH MACRON AND GRAVE
gCAPITAL LETTER O WITH MACRON AND ACUTEgSMALL LETTER O WITH MACRON AND ACUTE
gCAPITAL LETTER P WITH ACUTEgSMALL LETTER P WITH ACUTEgCAPITAL LETTER P WITH DOT ABOVE
gSMALL LETTER P WITH DOT ABOVEgCAPITAL LETTER R WITH DOT ABOVEgSMALL LETTER R WITH DOT ABOVE
gCAPITAL LETTER R WITH DOT BELOWgSMALL LETTER R WITH DOT BELOW
gCAPITAL LETTER R WITH DOT BELOW AND MACRONgSMALL LETTER R WITH DOT BELOW AND MACRON
gCAPITAL LETTER R WITH LINE BELOWgSMALL LETTER R WITH LINE BELOWgCAPITAL LETTER S WITH DOT ABOVE
gSMALL LETTER S WITH DOT ABOVEgCAPITAL LETTER S WITH DOT BELOWgSMALL LETTER S WITH DOT BELOW
gCAPITAL LETTER S WITH ACUTE AND DOT ABOVEgSMALL LETTER S WITH ACUTE AND DOT ABOVE
gCAPITAL LETTER S WITH CARON AND DOT ABOVEgSMALL LETTER S WITH CARON AND DOT ABOVE
gCAPITAL LETTER S WITH DOT BELOW AND DOT ABOVEgSMALL LETTER S WITH DOT BELOW AND DOT ABOVE
gCAPITAL LETTER T WITH DOT ABOVEgSMALL LETTER T WITH DOT ABOVEgCAPITAL LETTER T WITH DOT BELOW
gSMALL LETTER T WITH DOT BELOWgCAPITAL LETTER T WITH LINE BELOWgSMALL LETTER T WITH LINE BELOW
gCAPITAL LETTER T WITH CIRCUMFLEX BELOWgSMALL LETTER T WITH CIRCUMFLEX BELOW
gCAPITAL LETTER U WITH DIAERESIS BELOWgSMALL LETTER U WITH DIAERESIS BELOW
gCAPITAL LETTER U WITH TILDE BELOWgSMALL LETTER U WITH TILDE BELOW
gCAPITAL LETTER U WITH CIRCUMFLEX BELOWgSMALL LETTER U WITH CIRCUMFLEX BELOW
gCAPITAL LETTER U WITH TILDE AND ACUTEgSMALL LETTER U WITH TILDE AND ACUTE
gCAPITAL LETTER U WITH MACRON AND DIAERESISgSMALL LETTER U WITH MACRON AND DIAERESIS
gCAPITAL LETTER V WITH TILDEgSMALL LETTER V WITH TILDEgCAPITAL LETTER V WITH DOT BELOW
gSMALL LETTER V WITH DOT BELOWgCAPITAL LETTER W WITH GRAVEgSMALL LETTER W WITH GRAVE
gCAPITAL LETTER W WITH ACUTEgSMALL LETTER W WITH ACUTEgCAPITAL LETTER W WITH DIAERESIS
gSMALL LETTER W WITH DIAERESISgCAPITAL LETTER W WITH DOT ABOVEgSMALL LETTER W WITH DOT ABOVE
gCAPITAL LETTER W WITH DOT BELOWgSMALL LETTER W WITH DOT BELOWgCAPITAL LETTER X WITH DOT ABOVE
gSMALL LETTER X WITH DOT ABOVEgCAPITAL LETTER X WITH DIAERESISgSMALL LETTER X WITH DIAERESIS
gCAPITAL LETTER Y WITH DOT ABOVEgSMALL LETTER Y WITH DOT ABOVEgCAPITAL LETTER Z WITH CIRCUMFLEX
gSMALL LETTER Z WITH CIRCUMFLEXgCAPITAL LETTER Z WITH DOT BELOWgSMALL LETTER Z WITH DOT BELOW
gCAPITAL LETTER Z WITH LINE BELOWgSMALL LETTER Z WITH LINE BELOWtH WITH LINE BELOW
tT WITH DIAERESIStW WITH RING ABOVEtY WITH RING ABOVEtA WITH RIGHT HALF RING
tLONG S WITH DOT ABOVEz WITH DIAGONAL STROKEz WITH HIGH STROKEgCAPITAL LETTER SHARP S
gSMALL LETTER DELTAgCAPITAL LETTER A WITH DOT BELOWgSMALL LETTER A WITH DOT BELOW
gCAPITAL LETTER A WITH HOOK ABOVEgSMALL LETTER A WITH HOOK ABOVE
gCAPITAL LETTER A WITH CIRCUMFLEX AND ACUTEgSMALL LETTER A WITH CIRCUMFLEX AND ACUTE
gCAPITAL LETTER A WITH CIRCUMFLEX AND GRAVEgSMALL LETTER A WITH CIRCUMFLEX AND GRAVE
gCAPITAL LETTER A WITH CIRCUMFLEX AND HOOK ABOVEgSMALL LETTER A WITH CIRCUMFLEX AND HOOK ABOVE
gCAPITAL LETTER A WITH CIRCUMFLEX AND TILDEgSMALL LETTER A WITH CIRCUMFLEX AND TILDE
gCAPITAL LETTER A WITH CIRCUMFLEX AND DOT BELOWgSMALL LETTER A WITH CIRCUMFLEX AND DOT BELOW
gCAPITAL LETTER A WITH BREVE AND ACUTEgSMALL LETTER A WITH BREVE AND ACUTE
gCAPITAL LETTER A WITH BREVE AND GRAVEgSMALL LETTER A WITH BREVE AND GRAVE
gCAPITAL LETTER A WITH BREVE AND HOOK ABOVEgSMALL LETTER A WITH BREVE AND HOOK ABOVE
gCAPITAL LETTER A WITH BREVE AND TILDEgSMALL LETTER A WITH BREVE AND TILDE
gCAPITAL LETTER A WITH BREVE AND DOT BELOWgSMALL LETTER A WITH BREVE AND DOT BELOW
gCAPITAL LETTER E WITH DOT BELOWgSMALL LETTER E WITH DOT BELOWgCAPITAL LETTER E WITH HOOK ABOVE
gSMALL LETTER E WITH HOOK ABOVEgCAPITAL LETTER E WITH TILDEgSMALL LETTER E WITH TILDE
gCAPITAL LETTER E WITH CIRCUMFLEX AND ACUTEgSMALL LETTER E WITH CIRCUMFLEX AND ACUTE
gCAPITAL LETTER E WITH CIRCUMFLEX AND GRAVEgSMALL LETTER E WITH CIRCUMFLEX AND GRAVE
gCAPITAL LETTER E WITH CIRCUMFLEX AND HOOK ABOVEgSMALL LETTER E WITH CIRCUMFLEX AND HOOK ABOVE
gCAPITAL LETTER E WITH CIRCUMFLEX AND TILDEgSMALL LETTER E WITH CIRCUMFLEX AND TILDE
gCAPITAL LETTER E WITH CIRCUMFLEX AND DOT BELOWgSMALL LETTER E WITH CIRCUMFLEX AND DOT BELOW
gCAPITAL LETTER I WITH HOOK ABOVEgSMALL LETTER I WITH HOOK ABOVEgCAPITAL LETTER I WITH DOT BELOW
gSMALL LETTER I WITH DOT BELOWgCAPITAL LETTER O WITH DOT BELOWgSMALL LETTER O WITH DOT BELOW
gCAPITAL LETTER O WITH HOOK ABOVEgSMALL LETTER O WITH HOOK ABOVE
gCAPITAL LETTER O WITH CIRCUMFLEX AND ACUTEgSMALL LETTER O WITH CIRCUMFLEX AND ACUTE
gCAPITAL LETTER O WITH CIRCUMFLEX AND GRAVEgSMALL LETTER O WITH CIRCUMFLEX AND GRAVE
gCAPITAL LETTER O WITH CIRCUMFLEX AND HOOK ABOVEgSMALL LETTER O WITH CIRCUMFLEX AND HOOK ABOVE
gCAPITAL LETTER O WITH CIRCUMFLEX AND TILDEgSMALL LETTER O WITH CIRCUMFLEX AND TILDE
gCAPITAL LETTER O WITH CIRCUMFLEX AND DOT BELOWgSMALL LETTER O WITH CIRCUMFLEX AND DOT BELOW
gCAPITAL LETTER O WITH HORN AND ACUTEgSMALL LETTER O WITH HORN AND ACUTE
gCAPITAL LETTER O WITH HORN AND GRAVEgSMALL LETTER O WITH HORN AND GRAVE
gCAPITAL LETTER O WITH HORN AND HOOK ABOVEgSMALL LETTER O WITH HORN AND HOOK ABOVE
gCAPITAL LETTER O WITH HORN AND TILDEgSMALL LETTER O WITH HORN AND TILDE
gCAPITAL LETTER O WITH HORN AND DOT BELOWgSMALL LETTER O WITH HORN AND DOT BELOW
gCAPITAL LETTER U WITH DOT BELOWgSMALL LETTER U WITH DOT BELOWgCAPITAL LETTER U WITH HOOK ABOVE
gSMALL LETTER U WITH HOOK ABOVEgCAPITAL LETTER U WITH HORN AND ACUTE
gSMALL LETTER U WITH HORN AND ACUTEgCAPITAL LETTER U WITH HORN AND GRAVE
gSMALL LETTER U WITH HORN AND GRAVEgCAPITAL LETTER U WITH HORN AND HOOK ABOVE
gSMALL LETTER U WITH HORN AND HOOK ABOVEgCAPITAL LETTER U WITH HORN AND TILDE
gSMALL LETTER U WITH HORN AND TILDEgCAPITAL LETTER U WITH HORN AND DOT BELOW
gSMALL LETTER U WITH HORN AND DOT BELOWgCAPITAL LETTER Y WITH GRAVEgSMALL LETTER Y WITH GRAVE
gCAPITAL LETTER Y WITH DOT BELOWgSMALL LETTER Y WITH DOT BELOWgCAPITAL LETTER Y WITH HOOK ABOVE
gSMALL LETTER Y WITH HOOK ABOVEgCAPITAL LETTER Y WITH TILDEgSMALL LETTER Y WITH TILDE
gCAPITAL LETTER MIDDLE-WELSH LLgSMALL LETTER MIDDLE-WELSH LLgCAPITAL LETTER MIDDLE-WELSH V
gSMALL LETTER MIDDLE-WELSH VgCAPITAL LETTER Y WITH LOOPgSMALL LETTER Y WITH LOOP
aGREEK SMALL LETTER ALPHA WITH PSILIzWITH DASIAzWITH PSILI AND VARIAzWITH DASIA AND VARIA
zWITH PSILI AND OXIAzWITH DASIA AND OXIAzWITH PSILI AND PERISPOMENIzWITH DASIA AND PERISPOMENI
gCAPITAL LETTER ALPHA WITH PSILIzA WITH DASIAzA WITH PSILI AND VARIAzA WITH DASIA AND VARIA
zA WITH PSILI AND OXIAzA WITH DASIA AND OXIAzA WITH PSILI AND PERISPOMENI
zA WITH DASIA AND PERISPOMENIgSMALL LETTER EPSILON WITH PSILIzN WITH DASIA
zN WITH PSILI AND VARIAzN WITH DASIA AND VARIAzN WITH PSILI AND OXIAzN WITH DASIA AND OXIA"⟩,
  ⟨0x1f18, "
aGREEK CAPITAL LETTER EPSILON WITH PSILIzLON WITH DASIAzLON WITH PSILI AND VARIA
zLON WITH DASIA AND VARIAzLON WITH PSILI AND OXIAzLON WITH DASIA AND OXIA"⟩,
  ⟨0x1f20, "
aGREEK SMALL LETTER ETA WITH PSILIzTH DASIAzTH PSILI AND VARIAzTH DASIA AND VARIA
zTH PSILI AND OXIAzTH DASIA AND OXIAzTH PSILI AND PERISPOMENIzTH DASIA AND PERISPOMENI
gCAPITAL LETTER ETA WITH PSILIzWITH DASIAzWITH PSILI AND VARIAzWITH DASIA AND VARIA
zWITH PSILI AND OXIAzWITH DASIA AND OXIAzWITH PSILI AND PERISPOMENIzWITH DASIA AND PERISPOMENI
gSMALL LETTER IOTA WITH PSILIzITH DASIAzITH PSILI AND VARIAzITH DASIA AND VARIA
zITH PSILI AND OXIAzITH DASIA AND OXIAzITH PSILI AND PERISPOMENIzITH DASIA AND PERISPOMENI
gCAPITAL LETTER IOTA WITH PSILIz WITH DASIAz WITH PSILI AND VARIAz WITH DASIA AND VARIA
z WITH PSILI AND OXIAz WITH DASIA AND OXIAz WITH PSILI AND PERISPOMENI
z WITH DASIA AND PERISPOMENIgSMALL LETTER OMICRON WITH PSILIzN WITH DASIAzN WITH PSILI AND VARIA
zN WITH DASIA AND VARIAzN WITH PSILI AND OXIAzN WITH DASIA AND OXIA"⟩,
  ⟨0x1f48, "
aGREEK CAPITAL LETTER OMICRON WITH PSILIzRON WITH DASIAzRON WITH PSILI AND VARIA
zRON WITH DASIA AND VARIAzRON WITH PSILI AND OXIAzRON WITH DASIA AND OXIA"⟩,
  ⟨0x1f50, "
aGREEK SMALL LETTER UPSILON WITH PSILIzN WITH DASIAzN WITH PSILI AND VARIA
zN WITH DASIA AND VARIAzN WITH PSILI AND OXIAzN WITH DASIA AND OXIAzN WITH PSILI AND PERISPOMENI
zN WITH DASIA AND PERISPOMENI"⟩,
  ⟨0x1f59, "aGREEK CAPITAL LETTER UPSILON WITH DASIA"⟩,
  ⟨0x1f5b, "aGREEK CAPITAL LETTER UPSILON WITH DASIA AND VARIA"⟩,
  ⟨0x1f5d, "aGREEK CAPITAL LETTER UPSILON WITH DASIA AND OXIA"⟩,
  ⟨0x1f5f, "
aGREEK CAPITAL LETTER UPSILON WITH DASIA AND PERISPOMENIgSMALL LETTER OMEGA WITH PSILI
zWITH DASIAzWITH PSILI AND VARIAzWITH DASIA AND VARIAzWITH PSILI AND OXIAzWITH DASIA AND OXIA
zWITH PSILI AND PERISPOMENIzWITH DASIA AND PERISPOMENIgCAPITAL LETTER OMEGA WITH PSILI
zA WITH DASIAzA WITH PSILI AND VARIAzA WITH DASIA AND VARIAzA WITH PSILI AND OXIA
zA WITH DASIA AND OXIAzA WITH PSILI AND PERISPOMENIzA WITH DASIA AND PERISPOMENI
gSMALL LETTER ALPHA WITH VARIAzWITH OXIAtEPSILON WITH VARIAzN WITH OXIAuTA WITH VARIAzTH OXIA
tIOTA WITH VARIAzITH OXIAtOMICRON WITH VARIAzN WITH OXIAtUPSILON WITH VARIAzN WITH OXIA
tOMEGA WITH VARIAzWITH OXIA"⟩,
  ⟨0x1f80, "
aGREEK SMALL LETTER ALPHA WITH PSILI AND YPOGEGRAMMENIzWITH DASIA AND YPOGEGRAMMENI
zWITH PSILI AND VARIA AND YPOGEGRAMMENIzWITH DASIA AND VARIA AND YPOGEGRAMMENI
zWITH PSILI AND OXIA AND YPOGEGRAMMENIzWITH DASIA AND OXIA AND YPOGEGRAMMENI
zWITH PSILI AND PERISPOMENI AND YPOGEGRAMMENIzWITH DASIA AND PERISPOMENI AND YPOGEGRAMMENI
gCAPITAL LETTER ALPHA WITH PSILI AND PROSGEGRAMMENIzA WITH DASIA AND PROSGEGRAMMENI
zA WITH PSILI AND VARIA AND PROSGEGRAMMENIzA WITH DASIA AND VARIA AND PROSGEGRAMMENI
zA WITH PSILI AND OXIA AND PROSGEGRAMMENIzA WITH DASIA AND OXIA AND PROSGEGRAMMENI
zA WITH PSILI AND PERISPOMENI AND PROSGEGRAMMENIzA WITH DASIA AND PERISPOMENI AND PROSGEGRAMMENI
gSMALL LETTER ETA WITH PSILI AND YPOGEGRAMMENIzTH DASIA AND YPOGEGRAMMENI
zTH PSILI AND VARIA AND YPOGEGRAMMENIzTH DASIA AND VARIA AND YPOGEGRAMMENI
zTH PSILI AND OXIA AND YPOGEGRAMMENIzTH DASIA AND OXIA AND YPOGEGRAMMENI
zTH PSILI AND PERISPOMENI AND YPOGEGRAMMENIzTH DASIA AND PERISPOMENI AND YPOGEGRAMMENI
gCAPITAL LETTER ETA WITH PSILI AND PROSGEGRAMMENIzWITH DASIA AND PROSGEGRAMMENI
zWITH PSILI AND VARIA AND PROSGEGRAMMENIzWITH DASIA AND VARIA AND PROSGEGRAMMENI
zWITH PSILI AND OXIA AND PROSGEGRAMMENIzWITH DASIA AND OXIA AND PROSGEGRAMMENI
zWITH PSILI AND PERISPOMENI AND PROSGEGRAMMENIzWITH DASIA AND PERISPOMENI AND PROSGEGRAMMENI
gSMALL LETTER OMEGA WITH PSILI AND YPOGEGRAMMENIzWITH DASIA AND YPOGEGRAMMENI
zWITH PSILI AND VARIA AND YPOGEGRAMMENIzWITH DASIA AND VARIA AND YPOGEGRAMMENI
zWITH PSILI AND OXIA AND YPOGEGRAMMENIzWITH DASIA AND OXIA AND YPOGEGRAMMENI
zWITH PSILI AND PERISPOMENI AND YPOGEGRAMMENIzWITH DASIA AND PERISPOMENI AND YPOGEGRAMMENI
gCAPITAL LETTER OMEGA WITH PSILI AND PROSGEGRAMMENIzA WITH DASIA AND PROSGEGRAMMENI
zA WITH PSILI AND VARIA AND PROSGEGRAMMENIzA WITH DASIA AND VARIA AND PROSGEGRAMMENI
zA WITH PSILI AND OXIA AND PROSGEGRAMMENIzA WITH DASIA AND OXIA AND PROSGEGRAMMENI
zA WITH PSILI AND PERISPOMENI AND PROSGEGRAMMENIzA WITH DASIA AND PERISPOMENI AND PROSGEGRAMMENI
gSMALL LETTER ALPHA WITH VRACHYzWITH MACRONzWITH VARIA AND YPOGEGRAMMENIzWITH YPOGEGRAMMENI
zWITH OXIA AND YPOGEGRAMMENI"⟩,
  ⟨0x1fb6, "
aGREEK SMALL LETTER ALPHA WITH PERISPOMENIzWITH PERISPOMENI AND YPOGEGRAMMENI
gCAPITAL LETTER ALPHA WITH VRACHYzA WITH MACRONzA WITH VARIAzA WITH OXIAzA WITH PROSGEGRAMMENI
gKORONISgPROSGEGRAMMENIhSILIhERISPOMENIgDIALYTIKA AND PERISPOMENI
gSMALL LETTER ETA WITH VARIA AND YPOGEGRAMMENIzTH YPOGEGRAMMENIzTH OXIA AND YPOGEGRAMMENI"⟩,
  ⟨0x1fc6, "
aGREEK SMALL LETTER ETA WITH PERISPOMENIzTH PERISPOMENI AND YPOGEGRAMMENI
gCAPITAL LETTER EPSILON WITH VARIAzLON WITH OXIAwTA WITH VARIAzWITH OXIAzWITH PROSGEGRAMMENI
gPSILI AND VARIAqOXIAqPERISPOMENIgSMALL LETTER IOTA WITH VRACHYzITH MACRON
zITH DIALYTIKA AND VARIAzITH DIALYTIKA AND OXIA"⟩,
  ⟨0x1fd6, "
aGREEK SMALL LETTER IOTA WITH PERISPOMENIzITH DIALYTIKA AND PERISPOMENI
gCAPITAL LETTER IOTA WITH VRACHYz WITH MACRONz WITH VARIAz WITH OXIA"⟩,
  ⟨0x1fdd, "
aGREEK DASIA AND VARIAqOXIAqPERISPOMENIgSMALL LETTER UPSILON WITH VRACHYzN WITH MACRON
zN WITH DIALYTIKA AND VARIAzN WITH DIALYTIKA AND OXIAtRHO WITH PSILIzTH DASIA
tUPSILON WITH PERISPOMENIzN WITH DIALYTIKA AND PERISPOMENIgCAPITAL LETTER UPSILON WITH VRACHY
zLON WITH MACRONzLON WITH VARIAzLON WITH OXIAvRHO WITH DASIAgDIALYTIKA AND VARIAuOXIAgVARIA"⟩,
  ⟨0x1ff2, "
aGREEK SMALL LETTER OMEGA WITH VARIA AND YPOGEGRAMMENIzWITH YPOGEGRAMMENI
zWITH OXIA AND YPOGEGRAMMENI"⟩,
  ⟨0x1ff6, "
aGREEK SMALL LETTER OMEGA WITH PERISPOMENIzWITH PERISPOMENI AND YPOGEGRAMMENI
gCAPITAL LETTER OMICRON WITH VARIAzRON WITH OXIAxEGA WITH VARIAzA WITH OXIA
zA WITH PROSGEGRAMMENIgOXIAgDASIA"⟩]

end ChatRiddles.Text.Names
